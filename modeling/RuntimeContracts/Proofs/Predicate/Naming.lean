import Mathlib.Data.List.Forall2
import RuntimeContracts.Proofs.Predicate.Conjunction

/-!
# What a predicate's name says

A composed name joins the names of its conjuncts and puts what it negates in parentheses. If the
names of the tests have none of the characters that this adds, a name can be read in only one way,
up to the grouping of conjunctions; and the grouping makes no difference to an evaluation. So
predicates that go by the same name evaluate alike.
-/

namespace RuntimeContracts

/-- The characters that mark the structure of a composed name. A blank is not one of them. -/
def reservedChars : List Char := ['&', '!', '(', ')']

def Plain (text : List Char) : Prop := ∀ c ∈ text, c ∉ reservedChars

namespace Predicate

variable {V ε : Type}

def visited (v : V) : Predicate V → List (NamedTest V)
  | .test t => [t]
  | .and left right =>
    left.visited v ++ if left.Holds v then right.visited v else []
  | .negate inner => inner.visited v

theorem tests_eq_visited (v : V) (p : Predicate V) :
    p.tests v = (p.visited v).map fun t => .tested t.label := by
  induction p with
  | test t => rfl
  | and left right ihl ihr =>
    cases hl : left.verdict v with
    | error text => simp [tests, visited, holds_iff, hl, ihl]
    | ok b => cases b <;> simp [tests, visited, holds_iff, hl, ihl, ihr]
  | negate inner ih => exact ih

theorem holds_and_iff {p q : Predicate V} {v : V} :
    (p.and q).Holds v ↔ p.Holds v ∧ q.Holds v := by
  simp only [holds_iff, verdict]
  cases hp : p.verdict v with
  | error text => simp [bind, Except.bind]
  | ok b => cases b <;> simp [bind, Except.bind, pure, Except.pure]

/-! ## Regrouping -/

/-- The predicates differ only in the grouping of conjunctions and in the labels of tests. -/
inductive Regroups : Predicate V → Predicate V → Prop where
  | test {t u : NamedTest V} (hname : t.name = u.name) (htest : t.test = u.test) :
      Regroups (.test t) (.test u)
  | negate {p q : Predicate V} (h : Regroups p q) : Regroups p.negate q.negate
  | and {p p' q q' : Predicate V} (hp : Regroups p p') (hq : Regroups q q') :
      Regroups (p.and q) (p'.and q')
  | assoc (p q r : Predicate V) : Regroups ((p.and q).and r) (p.and (q.and r))
  | symm {p q : Predicate V} (h : Regroups p q) : Regroups q p
  | trans {p q r : Predicate V} (h : Regroups p q) (h' : Regroups q r) : Regroups p r

theorem Regroups.refl (p : Predicate V) : Regroups p p := by
  induction p with
  | test t => exact .test rfl rfl
  | and left right ihl ihr => exact .and ihl ihr
  | negate inner ih => exact .negate ih

theorem Regroups.name_eq {p q : Predicate V} (h : Regroups p q) : p.name = q.name := by
  induction h with
  | test hname htest => exact hname
  | negate h ih => rw [name_negate, name_negate, ih]
  | and hp hq ihp ihq => rw [name_and, name_and, ihp, ihq]
  | assoc p q r => simp [String.append_assoc]
  | symm h ih => exact ih.symm
  | trans h h' ih ih' => exact ih.trans ih'

theorem Regroups.verdict_eq {p q : Predicate V} (h : Regroups p q) (v : V) :
    p.verdict v = q.verdict v := by
  induction h with
  | test hname htest => exact congrFun htest v
  | negate h ih => simp only [verdict, ih]
  | and hp hq ihp ihq => simp only [verdict, ihp, ihq]
  | assoc p q r =>
    cases hp : p.verdict v with
    | error text => simp only [verdict, hp]; rfl
    | ok b => cases b <;> simp only [verdict, hp] <;> rfl
  | symm h ih => exact ih.symm
  | trans h h' ih ih' => exact ih.trans ih'

/-- What a program can tell apart in the tests that are reached. -/
def visits (v : V) (p : Predicate V) : List (String × (V → Client Bool)) :=
  (p.visited v).map fun t => (t.name, t.test)

theorem Regroups.visits_eq {p q : Predicate V} (h : Regroups p q) (v : V) :
    p.visits v = q.visits v := by
  induction h with
  | test hname htest => simp [visits, visited, hname, htest]
  | negate h ih => exact ih
  | @and p p' q q' hp hq ihp ihq =>
    have hholds : p.Holds v ↔ p'.Holds v := by rw [holds_iff, holds_iff, hp.verdict_eq v]
    simp only [visits, visited, hholds, List.map_append] at *
    rw [ihp]
    split
    · rw [ihq]
    · rfl
  | assoc p q r =>
    by_cases hp : p.Holds v <;> by_cases hq : q.Holds v <;>
      simp [visits, visited, holds_and_iff, hp, hq]
  | symm h ih => exact ih.symm
  | trans h h' ih ih' => exact ih.trans ih'

/-! ## Conjuncts -/

def conjuncts : Predicate V → List (Predicate V)
  | .test t => [.test t]
  | .and left right => left.conjuncts ++ right.conjuncts
  | .negate inner => [.negate inner]

theorem conjuncts_eq_cons (p : Predicate V) : ∃ first rest, p.conjuncts = first :: rest := by
  induction p with
  | test t => exact ⟨_, _, rfl⟩
  | negate inner ih => exact ⟨_, _, rfl⟩
  | and left right ihl ihr =>
    obtain ⟨first, rest, hleft⟩ := ihl
    exact ⟨first, rest ++ right.conjuncts, by rw [conjuncts, hleft, List.cons_append]⟩

theorem Regroups.length_conjuncts {p q : Predicate V} (h : Regroups p q) :
    p.conjuncts.length = q.conjuncts.length := by
  induction h with
  | test hname htest => rfl
  | negate h ih => rfl
  | and hp hq ihp ihq => simp only [conjuncts, List.length_append, ihp, ihq]
  | assoc p q r => simp only [conjuncts, List.append_assoc]
  | symm h ih => exact ih.symm
  | trans h h' ih ih' => exact ih.trans ih'

theorem Regroups.conjunction {p q : Predicate V} {ps qs : List (Predicate V)}
    (h : Regroups p q) (hrest : List.Forall₂ Regroups ps qs) :
    Regroups (conjunction p ps) (conjunction q qs) := by
  induction hrest generalizing p q with
  | nil => exact h
  | cons hnext hrest ih => exact ih (.and h hnext)

theorem regroups_conjunction_and (p q : Predicate V) (rest : List (Predicate V)) :
    Regroups (conjunction (p.and q) rest) (p.and (conjunction q rest)) := by
  induction rest generalizing q with
  | nil => exact .refl _
  | cons r rest ih =>
    -- The next conjunct moves over to the right side, where the rest of them follow it.
    have hrefl : List.Forall₂ Regroups rest rest := List.forall₂_same.2 fun p _ => .refl p
    exact ((Regroups.assoc p q r).conjunction hrefl).trans (ih (q.and r))

theorem regroups_conjunction {p first : Predicate V} {rest : List (Predicate V)}
    (h : p.conjuncts = first :: rest) : Regroups p (conjunction first rest) := by
  induction p generalizing first rest with
  | test t =>
    obtain ⟨rfl, rfl⟩ := List.cons.inj h
    exact .refl _
  | negate inner ih =>
    obtain ⟨rfl, rfl⟩ := List.cons.inj h
    exact .refl _
  | and left right ihl ihr =>
    obtain ⟨a, as, hleft⟩ := left.conjuncts_eq_cons
    obtain ⟨b, bs, hright⟩ := right.conjuncts_eq_cons
    rw [conjuncts, hleft, hright, List.cons_append] at h
    obtain ⟨rfl, rfl⟩ := List.cons.inj h
    have hsplit : conjunction a (as ++ b :: bs) = conjunction ((conjunction a as).and b) bs := by
      simp only [conjunction, List.foldl_append, List.foldl_cons]
    rw [hsplit]
    exact (Regroups.and (ihl hleft) (ihr hright)).trans (regroups_conjunction_and ..).symm

/-- To regroup each conjunct is to regroup the whole. -/
theorem Regroups.of_conjuncts {p q : Predicate V}
    (h : List.Forall₂ Regroups p.conjuncts q.conjuncts) : Regroups p q := by
  obtain ⟨a, as, hp⟩ := p.conjuncts_eq_cons
  obtain ⟨b, bs, hq⟩ := q.conjuncts_eq_cons
  rw [hp, hq] at h
  cases h with
  | cons hfirst hrest =>
    exact (regroups_conjunction hp).trans
      ((hfirst.conjunction hrest).trans (regroups_conjunction hq).symm)

/-! ## Reading a name -/

structure Vocabulary (V : Type) where
  Contains : NamedTest V → Prop
  plain {t : NamedTest V} : Contains t → Plain t.name.toList
  test_eq {t u : NamedTest V} : Contains t → Contains u → t.name = u.name → t.test = u.test

def Vocabulary.Builds (vocabulary : Vocabulary V) : Predicate V → Prop
  | .test t => vocabulary.Contains t
  | .and left right => vocabulary.Builds left ∧ vocabulary.Builds right
  | .negate inner => vocabulary.Builds inner

def IsConjunct : Predicate V → Prop
  | .and _ _ => False
  | _ => True

theorem Vocabulary.builds_of_mem {vocabulary : Vocabulary V} {p c : Predicate V}
    (hp : vocabulary.Builds p) (h : c ∈ p.conjuncts) :
    c.IsConjunct ∧ vocabulary.Builds c := by
  induction p with
  | test t => exact List.mem_singleton.1 h ▸ ⟨trivial, hp⟩
  | negate inner ih => exact List.mem_singleton.1 h ▸ ⟨trivial, hp⟩
  | and left right ihl ihr => exact (List.mem_append.1 h).elim (ihl hp.1) (ihr hp.2)

def separated (conjuncts : List (Predicate V)) : List Char :=
  conjuncts.flatMap fun c => ' ' :: '&' :: '&' :: ' ' :: c.name.toList

theorem separated_conjuncts (p : Predicate V) :
    separated p.conjuncts = ' ' :: '&' :: '&' :: ' ' :: p.name.toList := by
  induction p with
  | test t => exact List.append_nil _
  | negate inner ih => exact List.append_nil _
  | and left right ihl ihr =>
    have happ : separated (left.conjuncts ++ right.conjuncts) = _ := List.flatMap_append
    rw [conjuncts, happ]
    unfold separated at ihl ihr
    rw [ihl, ihr]
    simp

inductive Closes : List Char → Prop where
  | nothing : Closes []
  | parenthesis (further : List Char) : Closes (')' :: further)

inductive FollowsConjunct : List Char → Prop where
  | closes {text : List Char} (h : Closes text) : FollowsConjunct text
  | separator (further : List Char) : FollowsConjunct (' ' :: '&' :: '&' :: ' ' :: further)

theorem followsConjunct_separated {text : List Char} (h : Closes text)
    (rest : List (Predicate V)) : FollowsConjunct (separated rest ++ text) := by
  cases rest with
  | nil => exact .closes h
  | cons c rest => exact .separator _

/-- What follows a conjunct does not begin with a character that is reserved for another place. -/
theorem not_followsConjunct_cons {c : Char} {text : List Char} (hblank : c ≠ ' ')
    (hclose : c ≠ ')') : ¬ FollowsConjunct (c :: text) := by
  intro h
  cases h with
  | closes h =>
    cases h
    exact hclose rfl
  | separator further => exact hblank rfl

/-- A plain text does not run on into what can follow it. -/
theorem not_followsConjunct_append {c : Char} {m s : List Char} (hplain : Plain (c :: m))
    (hs : FollowsConjunct s) : ¬ FollowsConjunct (c :: m ++ s) := by
  intro h
  generalize htext : c :: m ++ s = text at h
  cases h with
  | closes h =>
    cases h with
    | nothing => cases htext
    | parenthesis further =>
      obtain ⟨rfl, -⟩ := List.cons.inj htext
      exact hplain ')' List.mem_cons_self (by decide)
  | separator further =>
    -- The text may begin with the blank of a separator, but not go on with its ampersand.
    obtain ⟨rfl, htail⟩ := List.cons.inj htext
    cases m with
    | nil =>
      obtain rfl : s = '&' :: '&' :: ' ' :: further := htail
      exact not_followsConjunct_cons (by decide) (by decide) hs
    | cons d m =>
      obtain ⟨rfl, -⟩ := List.cons.inj htail
      exact hplain '&' (by simp) (by decide)

theorem plain_append_inj {m n s t : List Char} (hm : Plain m) (hn : Plain n)
    (hs : FollowsConjunct s) (ht : FollowsConjunct t) (h : m ++ s = n ++ t) : m = n ∧ s = t := by
  induction m generalizing n with
  | nil =>
    cases n with
    | nil => exact ⟨rfl, h⟩
    | cons d n => exact absurd (h ▸ hs) (not_followsConjunct_append hn ht)
  | cons c m ih =>
    cases n with
    | nil => exact absurd (h ▸ ht) (not_followsConjunct_append hm hs)
    | cons d n =>
      obtain ⟨rfl, htail⟩ := List.cons.inj h
      obtain ⟨rfl, rfl⟩ := ih (fun c hc => hm c (List.mem_cons_of_mem _ hc))
        (fun c hc => hn c (List.mem_cons_of_mem _ hc)) htail
      exact ⟨rfl, rfl⟩

/-- The name of a test is not read as that of a negation. -/
theorem plain_append_ne {m s text : List Char} (hm : Plain m) (hs : FollowsConjunct s) :
    m ++ s ≠ '!' :: text := by
  intro h
  cases m with
  | nil =>
    obtain rfl : s = '!' :: text := h
    exact not_followsConjunct_cons (by decide) (by decide) hs
  | cons c m =>
    obtain ⟨rfl, -⟩ := List.cons.inj h
    exact hm '!' List.mem_cons_self (by decide)

namespace Vocabulary

variable {vocabulary : Vocabulary V}

/-- Wherever the conjunct's name stands in a text, no unlike conjunct can be read in its place. -/
def ReadsUniquely (vocabulary : Vocabulary V) (c : Predicate V) : Prop :=
  ∀ (d : Predicate V) (s t : List Char), d.IsConjunct → vocabulary.Builds d →
    FollowsConjunct s → FollowsConjunct t →
      c.name.toList ++ s = d.name.toList ++ t → Regroups c d ∧ s = t

theorem separated_append_inj {cs ds : List (Predicate V)} {s t : List Char}
    (hcs : ∀ c ∈ cs, vocabulary.ReadsUniquely c)
    (hds : ∀ d ∈ ds, d.IsConjunct ∧ vocabulary.Builds d) (hs : Closes s) (ht : Closes t)
    (h : separated cs ++ s = separated ds ++ t) : List.Forall₂ Regroups cs ds ∧ s = t := by
  induction cs generalizing ds with
  | nil =>
    cases ds with
    | nil => exact ⟨.nil, h⟩
    | cons d ds =>
      obtain rfl : s = ' ' :: _ := h
      cases hs
  | cons c cs ih =>
    cases ds with
    | nil =>
      obtain rfl : ' ' :: _ = t := h
      cases ht
    | cons d ds =>
      obtain ⟨hd, hbuilds⟩ := hds d List.mem_cons_self
      have htail : c.name.toList ++ (separated cs ++ s) =
          d.name.toList ++ (separated ds ++ t) := by
        simpa [separated] using h
      obtain ⟨hregroups, hrest⟩ := hcs c List.mem_cons_self d _ _ hd hbuilds
        (followsConjunct_separated hs cs) (followsConjunct_separated ht ds) htail
      obtain ⟨hall, hst⟩ := ih (fun c hc => hcs c (List.mem_cons_of_mem _ hc))
        (fun d hd => hds d (List.mem_cons_of_mem _ hd)) hrest
      exact ⟨.cons hregroups hall, hst⟩

theorem regroups_of_conjuncts_read {p q : Predicate V} {s t : List Char}
    (hp : ∀ c ∈ p.conjuncts, vocabulary.ReadsUniquely c) (hq : vocabulary.Builds q)
    (hs : Closes s) (ht : Closes t) (h : p.name.toList ++ s = q.name.toList ++ t) :
    Regroups p q ∧ s = t := by
  have hseparated : separated p.conjuncts ++ s = separated q.conjuncts ++ t := by
    simp [separated_conjuncts, h]
  have hconjuncts : ∀ d ∈ q.conjuncts, d.IsConjunct ∧ vocabulary.Builds d :=
    fun d => builds_of_mem hq
  exact (separated_append_inj hp hconjuncts hs ht hseparated).imp_left .of_conjuncts

theorem readsUniquely_test {t : NamedTest V} (ht : vocabulary.Contains t) :
    vocabulary.ReadsUniquely (.test t) := by
  intro d s s' hd hbuilds hs hs' h
  cases d with
  | test u =>
    obtain ⟨hname, hrest⟩ :=
      plain_append_inj (vocabulary.plain ht) (vocabulary.plain hbuilds) hs hs' h
    have hname : t.name = u.name := String.toList_inj.1 hname
    exact ⟨.test hname (vocabulary.test_eq ht hbuilds hname), hrest⟩
  | negate inner =>
    exact absurd (by simpa using h) (plain_append_ne (vocabulary.plain ht) hs)
  | and left right => exact hd.elim

theorem readsUniquely_negate {p : Predicate V}
    (hp : ∀ c ∈ p.conjuncts, vocabulary.ReadsUniquely c) :
    vocabulary.ReadsUniquely p.negate := by
  intro d s s' hd hbuilds hs hs' h
  cases d with
  | test u => exact absurd (by simpa using h.symm) (plain_append_ne (vocabulary.plain hbuilds) hs')
  | negate q =>
    have hq : vocabulary.Builds q := hbuilds
    have hinner : p.name.toList ++ ')' :: s = q.name.toList ++ ')' :: s' := by simpa using h
    obtain ⟨hregroups, hrest⟩ :=
      regroups_of_conjuncts_read hp hq (.parenthesis s) (.parenthesis s') hinner
    exact ⟨.negate hregroups, (List.cons.inj hrest).2⟩
  | and left right => exact hd.elim

theorem readsUniquely_of_mem {p c : Predicate V} (hp : vocabulary.Builds p)
    (hmem : c ∈ p.conjuncts) : vocabulary.ReadsUniquely c := by
  induction p generalizing c with
  | test t => exact List.mem_singleton.1 hmem ▸ readsUniquely_test hp
  | negate inner ih =>
    exact List.mem_singleton.1 hmem ▸ readsUniquely_negate fun c hc => ih hp hc
  | and left right ihl ihr => exact (List.mem_append.1 hmem).elim (ihl hp.1) (ihr hp.2)

/-- Predicates of one vocabulary go by the same name exactly if one regroups the other. -/
theorem name_eq_iff_regroups {p q : Predicate V} (hp : vocabulary.Builds p)
    (hq : vocabulary.Builds q) : p.name = q.name ↔ Regroups p q := by
  refine ⟨fun h => ?_, Regroups.name_eq⟩
  have hread : ∀ c ∈ p.conjuncts, vocabulary.ReadsUniquely c := fun c => readsUniquely_of_mem hp
  exact (regroups_of_conjuncts_read hread hq .nothing .nothing (by rw [h])).1

theorem contains_of_visited {p : Predicate V} (hp : vocabulary.Builds p) {v : V}
    {t : NamedTest V} (h : t ∈ p.visited v) : vocabulary.Contains t := by
  induction p with
  | test u => exact List.mem_singleton.1 h ▸ hp
  | negate inner ih => exact ih hp h
  | and left right ihl ihr =>
    rcases List.mem_append.1 h with hleft | hright
    · exact ihl hp.1 hleft
    · split at hright
      · exact ihr hp.2 hright
      · cases hright

end Vocabulary

def Vocabulary.LabelsByName (vocabulary : Vocabulary V) : Prop :=
  ∀ t u, vocabulary.Contains t → vocabulary.Contains u → t.name = u.name → t.label = u.label

theorem Vocabulary.map_label_eq {vocabulary : Vocabulary V} (hlabel : vocabulary.LabelsByName)
    {ts us : List (NamedTest V)} (hts : ∀ t ∈ ts, vocabulary.Contains t)
    (hus : ∀ u ∈ us, vocabulary.Contains u) (h : ts.map NamedTest.name = us.map NamedTest.name) :
    ts.map NamedTest.label = us.map NamedTest.label := by
  induction ts generalizing us with
  | nil => rw [List.map_eq_nil_iff.1 h.symm]
  | cons t ts ih =>
    cases us with
    | nil => cases h
    | cons u us =>
      obtain ⟨hname, hrest⟩ := List.cons.inj h
      have hhead := hlabel t u (hts t List.mem_cons_self) (hus u List.mem_cons_self) hname
      have htail := ih (fun t ht => hts t (List.mem_cons_of_mem _ ht))
        (fun u hu => hus u (List.mem_cons_of_mem _ hu)) hrest
      rw [List.map_cons, List.map_cons, hhead, htail]

/-! ## Evaluations -/

theorem eval_and_assoc (p q r : Predicate V) (v : V) :
    (((p.and q).and r).eval v : Run ε Bool) = (p.and (q.and r)).eval v := by
  simp only [eval_and, bind_assoc]
  congr 1
  funext b
  cases b <;> simp

theorem eval_eq_visited (p : Predicate V) (v : V) : (p.eval v : Run ε Bool) =
    (Run.call (p.verdict v)).after (((p.visited v).map NamedTest.label).map .tested) := by
  rw [eval_eq, tests_eq_visited, List.map_map]
  rfl

/-- A name in one vocabulary says all that a program can tell of an evaluation: which tests are
reached, in order, and how they let it end. Only a composition that groups its conjuncts in another
way, and so evaluates in the same way, goes by the same name; a negation never goes by the name of a
conjunction. -/
theorem names_are_faithful (vocabulary : Vocabulary V) :
    (∀ p q : Predicate V, vocabulary.Builds p → vocabulary.Builds q → p.name = q.name → ∀ v,
      p.visits v = q.visits v ∧
        (p.eval v : Run ε Bool).outcome = (q.eval v : Run ε Bool).outcome ∧
        (vocabulary.LabelsByName → (p.eval v : Run ε Bool) = q.eval v)) ∧
      (∀ p q r : Predicate V, ((p.and q).and r).name = (p.and (q.and r)).name ∧
        ∀ v, (((p.and q).and r).eval v : Run ε Bool) = (p.and (q.and r)).eval v) ∧
      ∀ p q r : Predicate V, vocabulary.Builds p → vocabulary.Builds q → vocabulary.Builds r →
        p.negate.name ≠ (q.and r).name := by
  refine ⟨fun p q hp hq hname v => ?_, fun p q r => ?_, fun p q r hp hq hr hname => ?_⟩
  · have hregroups := (vocabulary.name_eq_iff_regroups hp hq).1 hname
    have hvisits := hregroups.visits_eq v
    have hverdict := hregroups.verdict_eq v
    refine ⟨hvisits, ?_, fun hlabel => ?_⟩
    · rw [eval_eq, eval_eq, Run.outcome_after, Run.outcome_after, hverdict]
    · have hnames : (p.visited v).map NamedTest.name = (q.visited v).map NamedTest.name := by
        simpa [visits, Function.comp_def] using congrArg (List.map Prod.fst) hvisits
      have hlabels := vocabulary.map_label_eq hlabel (fun t => vocabulary.contains_of_visited hp)
        (fun t => vocabulary.contains_of_visited hq) hnames
      rw [eval_eq_visited, eval_eq_visited, hverdict, hlabels]
  · exact ⟨(Regroups.assoc p q r).name_eq, eval_and_assoc p q r⟩
  · have hnegation : vocabulary.Builds p.negate := hp
    have hconjunction : vocabulary.Builds (q.and r) := ⟨hq, hr⟩
    have hlength :=
      ((vocabulary.name_eq_iff_regroups hnegation hconjunction).1 hname).length_conjuncts
    obtain ⟨a, as, hfirst⟩ := q.conjuncts_eq_cons
    obtain ⟨b, bs, hsecond⟩ := r.conjuncts_eq_cons
    simp [conjuncts, hfirst, hsecond] at hlength

def even : NamedTest Nat := ⟨"even", "even", fun n => .ok (n % 2 = 0)⟩

/-- Its closure has no answer for zero. -/
def oneDigit : NamedTest Nat :=
  ⟨"one digit", "one digit", fun n => if n = 0 then .error "no digit" else .ok (n < 10)⟩

def numberTests : Vocabulary Nat where
  Contains t := t = even ∨ t = oneDigit
  plain := by
    rintro t (rfl | rfl)
    · simp [Plain, even, reservedChars]
    · simp [Plain, oneDigit, reservedChars]
  test_eq := by
    rintro t u (rfl | rfl) (rfl | rfl) hname
    · rfl
    · exact absurd hname (by decide)
    · exact absurd hname (by decide)
    · rfl

theorem regrouped_number_tests_evaluate_alike :
    let p : Predicate Nat := .and (.and (.test even) (.negate (.test oneDigit))) (.test even)
    let q : Predicate Nat := .and (.test even) (.and (.negate (.test oneDigit)) (.test even))
    p.name = q.name ∧ (∀ v, (p.eval v : Run Empty Bool) = q.eval v) ∧
      (negate (.and (.test even) (.test oneDigit))).name ≠
        (and (.negate (.test even)) (.negate (.test oneDigit))).name := by
  intro p q
  have heven : numberTests.Builds (.test even) := .inl rfl
  have hdigit : numberTests.Builds (.test oneDigit) := .inr rfl
  have hlabels : numberTests.LabelsByName := by
    rintro t u (rfl | rfl) (rfl | rfl) hname <;> exact hname
  obtain ⟨hsame, hgroup, hother⟩ := names_are_faithful (ε := Empty) numberTests
  have hname : p.name = q.name := by decide
  refine ⟨hname, fun v => ?_, ?_⟩
  · exact (hsame p q ⟨⟨heven, hdigit⟩, heven⟩ ⟨heven, hdigit, heven⟩ hname v).2.2 hlabels
  · exact hother _ _ _ ⟨heven, hdigit⟩ heven hdigit

end Predicate
end RuntimeContracts
