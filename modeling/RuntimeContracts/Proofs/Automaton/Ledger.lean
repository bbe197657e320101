import Mathlib.Logic.Function.Basic
import RuntimeContracts.Automaton.Session
import RuntimeContracts.Proofs.Automaton.Coherence

/-!
# A ledger of the handles

Whoever follows the requests and the answers of a session can keep a ledger: it numbers the builders
in the order of their creation, follows each of them into the graph and the stateful value made of
it, and notes every handle that a registration answers. The ledger tracks the arenas of the
workspace: each of them shows what is noted for its builder.
-/

namespace RuntimeContracts.Automaton

inductive Place where
  | builder (name : String)
  | graph (name : String)
  | stateful (name : String)
deriving DecidableEq

structure Registration (V : Type) where
  builder : Nat
  minting : Minting V

structure Ledger (V : Type) where
  created : Nat
  builder? : Place → Option Nat
  registrations : List (Registration V)

namespace Ledger

variable {V : Type} {ledger : Ledger V}

def empty : Ledger V := ⟨0, fun _ => none, []⟩

def opened (ledger : Ledger V) (place : Place) : Ledger V :=
  { ledger with
    created := ledger.created + 1
    builder? := Function.update ledger.builder? place (some ledger.created) }

def minted (ledger : Ledger V) (place : Place) (minting : Minting V) : Ledger V :=
  match ledger.builder? place with
  | none => ledger
  | some builder => { ledger with registrations := ledger.registrations ++ [⟨builder, minting⟩] }

def dropped (ledger : Ledger V) (place : Place) : Ledger V :=
  { ledger with builder? := Function.update ledger.builder? place none }

def moved (ledger : Ledger V) (source target : Place) : Ledger V :=
  { ledger with
    builder? := Function.update (ledger.dropped source).builder? target (ledger.builder? source) }

/-- What stands at the source is used up, also by a request that fails. What is made of it stands at
the target. -/
def consumed (ledger : Ledger V) (source target : Place) :
    Outcome Violation (Option (Reply V)) → Ledger V
  | .returned none => ledger
  | .returned (some _) => ledger.moved source target
  | _ => ledger.dropped source

def note (ledger : Ledger V) : Request V → Outcome Violation (Option (Reply V)) → Ledger V
  | .newBuilder name, _ => ledger.opened (.builder name)
  | .register name state predicate _, .returned (some (.handle (some id))) =>
    ledger.minted (.builder name) ⟨id, state, predicate⟩
  | .build name _ graph, outcome => ledger.consumed (.builder name) (.graph graph) outcome
  | .create _ graph _ stateful, outcome =>
    ledger.consumed (.graph graph) (.stateful stateful) outcome
  | _, _ => ledger

theorem consumed_of_not_returned {outcome : Outcome Violation (Option (Reply V))}
    (h : ∀ reply, outcome ≠ .returned reply) (source target : Place) :
    ledger.consumed source target outcome = ledger.dropped source := by
  cases outcome with
  | returned reply => exact absurd rfl (h reply)
  | refused e | panicked text | aborted text => rfl

theorem note_register_of_not_returned {outcome : Outcome Violation (Option (Reply V))}
    (h : ∀ reply, outcome ≠ .returned reply) (name state : String) (predicate : Predicate V)
    (handle : String) : ledger.note (.register name state predicate handle) outcome = ledger := by
  cases outcome with
  | returned reply => exact absurd rfl (h reply)
  | refused e | panicked text | aborted text => rfl

/-- The ledger does not tell one failure from another. -/
theorem note_of_not_returned {first second : Outcome Violation (Option (Reply V))}
    (hfirst : ∀ reply, first ≠ .returned reply) (hsecond : ∀ reply, second ≠ .returned reply)
    (request : Request V) : ledger.note request first = ledger.note request second := by
  cases request with
  | register name state predicate handle =>
    rw [note_register_of_not_returned hfirst, note_register_of_not_returned hsecond]
  | build name initial graph =>
    rw [note, note, consumed_of_not_returned hfirst, consumed_of_not_returned hsecond]
  | create form name value stateful =>
    rw [note, note, consumed_of_not_returned hfirst, consumed_of_not_returned hsecond]
  | _ => rfl

def mintedBy (ledger : Ledger V) (builder : Nat) : List (Minting V) :=
  (ledger.registrations.filter (·.builder = builder)).map Registration.minting

theorem mem_mintedBy {builder : Nat} {minting : Minting V} :
    minting ∈ ledger.mintedBy builder ↔ ⟨builder, minting⟩ ∈ ledger.registrations := by
  simp only [mintedBy, List.mem_map, List.mem_filter, decide_eq_true_iff]
  constructor
  · rintro ⟨registration, ⟨hmem, rfl⟩, rfl⟩
    exact hmem
  · intro hmem
    exact ⟨_, ⟨hmem, rfl⟩, rfl⟩

/-! ## Handles in order -/

structure Valid (ledger : Ledger V) : Prop where
  builder_lt : ∀ r ∈ ledger.registrations, r.builder < ledger.created
  graph_eq : ∀ r ∈ ledger.registrations, r.minting.handle.graph = r.builder
  ascending : ledger.registrations.Pairwise fun earlier later =>
    earlier.builder = later.builder → earlier.minting.handle.index < later.minting.handle.index

theorem valid_empty : (empty : Ledger V).Valid where
  builder_lt _ hmem := by cases hmem
  graph_eq _ hmem := by cases hmem
  ascending := .nil

theorem Valid.opened (h : ledger.Valid) (place : Place) : (ledger.opened place).Valid where
  builder_lt r hmem := Nat.lt_succ_of_lt (h.builder_lt r hmem)
  graph_eq := h.graph_eq
  ascending := h.ascending

theorem Valid.compare_eq (h : ledger.Valid) {i j : Nat} {first second : Registration V}
    (hfirst : ledger.registrations[i]? = some first)
    (hsecond : ledger.registrations[j]? = some second) :
    compare first.minting.handle second.minting.handle =
      (compare first.builder second.builder).then (compare i j) := by
  have hascending : ∀ {i j : Nat} {first second : Registration V}, i < j →
      ledger.registrations[i]? = some first → ledger.registrations[j]? = some second →
      first.builder = second.builder →
      first.minting.handle.index < second.minting.handle.index := by
    intro i j first second hij hfirst hsecond
    obtain ⟨hi, rfl⟩ := List.getElem?_eq_some_iff.1 hfirst
    obtain ⟨hj, rfl⟩ := List.getElem?_eq_some_iff.1 hsecond
    exact List.pairwise_iff_getElem.1 h.ascending i j hi hj hij
  rw [StateHandle.compare_def, h.graph_eq first (List.mem_of_getElem? hfirst),
    h.graph_eq second (List.mem_of_getElem? hsecond)]
  by_cases hsame : first.builder = second.builder
  · -- One builder: its registrations and their places ascend together.
    rw [hsame, Nat.compare_eq_eq.2 rfl]
    change compare _ _ = compare i j
    rcases Nat.lt_trichotomy i j with hij | rfl | hij
    · rw [Nat.compare_eq_lt.2 hij, Nat.compare_eq_lt]
      exact hascending hij hfirst hsecond hsame
    · rw [Nat.compare_eq_eq.2 rfl, Nat.compare_eq_eq, Option.some.inj (hfirst.symm.trans hsecond)]
    · rw [Nat.compare_eq_gt.2 hij, Nat.compare_eq_gt]
      exact hascending hij hsecond hfirst hsame.symm
  · rcases Nat.lt_or_gt_of_ne hsame with hlt | hgt
    · rw [Nat.compare_eq_lt.2 hlt]
      rfl
    · rw [Nat.compare_eq_gt.2 hgt]
      rfl

/-- Handles compare by the creation of their builders and then by registration, and are equal only
if one registration answered both. -/
def Ordered (ledger : Ledger V) : Prop :=
  ∀ (i j : Nat) (first second : Registration V), ledger.registrations[i]? = some first →
    ledger.registrations[j]? = some second →
      compare first.minting.handle second.minting.handle =
          (compare first.builder second.builder).then (compare i j) ∧
        (first.minting.handle = second.minting.handle ↔ i = j)

theorem Valid.ordered (h : ledger.Valid) : ledger.Ordered := by
  intro i j first second hfirst hsecond
  have hcompare := h.compare_eq hfirst hsecond
  refine ⟨hcompare, ?_⟩
  rw [← StateHandle.compare_eq_eq_iff, hcompare, Ordering.then_eq_eq, Nat.compare_eq_eq,
    Nat.compare_eq_eq]
  constructor
  · rintro ⟨_, hplaces⟩
    exact hplaces
  · rintro rfl
    rw [Option.some.inj (hfirst.symm.trans hsecond)]
    exact ⟨rfl, rfl⟩

/-! ## Arenas in use -/

structure Shows (ledger : Ledger V) (arena : GraphBuilder V) : Prop where
  id_lt : arena.id < ledger.created
  mintedBy_eq : ledger.mintedBy arena.id = arena.minted

structure Tracks (ledger : Ledger V) (arenas : Place → Option (GraphBuilder V)) : Prop where
  builder?_eq : ledger.builder? = Option.map GraphBuilder.id ∘ arenas
  shows : ∀ place arena, arenas place = some arena → ledger.Shows arena
  apart : ∀ place other first second, arenas place = some first → arenas other = some second →
    first.id = second.id → place = other

variable {arenas : Place → Option (GraphBuilder V)}

theorem tracks_empty : Tracks (empty : Ledger V) fun _ => none where
  builder?_eq := rfl
  shows _ _ harena := by cases harena
  apart _ _ _ _ hfirst := by cases hfirst

theorem Tracks.builder?_of_some (h : ledger.Tracks arenas) {place : Place}
    {arena : GraphBuilder V} (harena : arenas place = some arena) :
    ledger.builder? place = some arena.id := by
  rw [h.builder?_eq, Function.comp_apply, harena, Option.map_some]

/-- An arena may be put in a place if the ledger shows it there, and no other place has one of its
number. -/
theorem Tracks.update (h : ledger.Tracks arenas) {next : Ledger V} {place : Place}
    {arena : GraphBuilder V}
    (hbuilder : next.builder? = Function.update ledger.builder? place (some arena.id))
    (hfresh : ∀ other taken, arenas other = some taken → taken.id = arena.id → other = place)
    (hkept : ∀ taken, ledger.Shows taken → taken.id ≠ arena.id → next.Shows taken)
    (hnew : next.Shows arena) : next.Tracks (Function.update arenas place (some arena)) where
  builder?_eq := by
    rw [hbuilder, h.builder?_eq, Function.comp_update, Option.map_some]
  shows other taken hget := by
    by_cases hother : other = place
    · rw [hother, Function.update_self] at hget
      rw [← Option.some.inj hget]
      exact hnew
    · rw [Function.update_of_ne hother] at hget
      exact hkept taken (h.shows other taken hget) fun hid => hother (hfresh other taken hget hid)
  apart one other first second hone htwo hid := by
    by_cases hplace : one = place
    · by_cases hother : other = place
      · rw [hplace, hother]
      · rw [hplace, Function.update_self] at hone
        rw [Function.update_of_ne hother] at htwo
        rw [← Option.some.inj hone] at hid
        exact absurd (hfresh other second htwo hid.symm) hother
    · rw [Function.update_of_ne hplace] at hone
      by_cases hother : other = place
      · rw [hother, Function.update_self] at htwo
        rw [← Option.some.inj htwo] at hid
        exact absurd (hfresh one first hone hid) hplace
      · rw [Function.update_of_ne hother] at htwo
        exact h.apart one other first second hone htwo hid

theorem Tracks.dropped (h : ledger.Tracks arenas) (place : Place) :
    (ledger.dropped place).Tracks (Function.update arenas place none) := by
  have hkept : ∀ {other taken}, Function.update arenas place none other = some taken →
      arenas other = some taken := by
    intro other taken hget
    by_cases hother : other = place
    · rw [hother, Function.update_self] at hget
      cases hget
    · rwa [Function.update_of_ne hother] at hget
  constructor
  · change Function.update ledger.builder? place none = _
    rw [h.builder?_eq, Function.comp_update, Option.map_none]
  · intro other taken hget
    have hshows := h.shows other taken (hkept hget)
    exact ⟨hshows.id_lt, hshows.mintedBy_eq⟩
  · intro one other first second hone htwo
    exact h.apart one other first second (hkept hone) (hkept htwo)

theorem Tracks.opened (h : ledger.Tracks arenas) (hvalid : ledger.Valid) (place : Place) :
    (ledger.opened place).Tracks
      (Function.update arenas place (some (GraphBuilder.new ledger.created))) := by
  have hnone : ledger.mintedBy ledger.created = [] := by
    refine List.eq_nil_iff_forall_not_mem.2 fun minting hmem => ?_
    have hlt := hvalid.builder_lt _ (mem_mintedBy.1 hmem)
    exact absurd hlt (Nat.lt_irrefl _)
  refine h.update rfl ?_ ?_ ⟨Nat.lt_succ_self _, hnone⟩
  · intro other taken hother hid
    have hlt := (h.shows other taken hother).id_lt
    exact absurd hid (Nat.ne_of_lt hlt)
  · intro taken hshows _
    exact ⟨Nat.lt_succ_of_lt hshows.id_lt, hshows.mintedBy_eq⟩

/-- An arena may change its connections. -/
theorem Tracks.replaced (h : ledger.Tracks arenas) {place : Place} {old arena : GraphBuilder V}
    (hold : arenas place = some old) (hid : arena.id = old.id)
    (hminted : arena.minted = old.minted) :
    ledger.Tracks (Function.update arenas place (some arena)) := by
  have hshows := h.shows place old hold
  refine h.update ?_ ?_ (fun _ hkept _ => hkept) ?_
  · rw [hid, ← h.builder?_of_some hold, Function.update_eq_self]
  · intro other taken hother hsame
    exact h.apart other place taken old hother hold (hsame.trans hid)
  · exact ⟨by rw [hid]; exact hshows.id_lt, by rw [hid, hminted]; exact hshows.mintedBy_eq⟩

theorem Tracks.moved (h : ledger.Tracks arenas) {source target : Place} {arena : GraphBuilder V}
    (hsource : arenas source = some arena) :
    (ledger.moved source target).Tracks
      (Function.update (Function.update arenas source none) target (some arena)) := by
  have hshows := h.shows source arena hsource
  refine (h.dropped source).update ?_ ?_ ?_ ?_
  · rw [← h.builder?_of_some hsource]
    rfl
  · intro other taken hother hid
    by_cases hplace : other = source
    · rw [hplace, Function.update_self] at hother
      cases hother
    · rw [Function.update_of_ne hplace] at hother
      exact absurd (h.apart other source taken arena hother hsource hid) hplace
  · intro taken hkept _
    exact ⟨hkept.id_lt, hkept.mintedBy_eq⟩
  · exact ⟨hshows.id_lt, hshows.mintedBy_eq⟩

/-! ## Registrations -/

theorem minted_of_some {place : Place} {builder : Nat} (h : ledger.builder? place = some builder)
    (minting : Minting V) : ledger.minted place minting =
      { ledger with registrations := ledger.registrations ++ [⟨builder, minting⟩] } := by
  rw [minted, h]

variable {place : Place} {arena : GraphBuilder V}

theorem Valid.minted (hvalid : ledger.Valid) (h : ledger.Tracks arenas)
    (harena : arenas place = some arena) (name : String) (predicate : Predicate V) :
    (ledger.minted place ⟨arena.nextId, name, predicate⟩).Valid := by
  have hshows := h.shows place arena harena
  rw [minted_of_some (h.builder?_of_some harena)]
  constructor
  · intro r hmem
    rcases List.mem_append.1 hmem with hold | hnew
    · exact hvalid.builder_lt r hold
    · rw [List.mem_singleton.1 hnew]
      exact hshows.id_lt
  · intro r hmem
    rcases List.mem_append.1 hmem with hold | hnew
    · exact hvalid.graph_eq r hold
    · rw [List.mem_singleton.1 hnew]
      rfl
  · refine List.pairwise_append.2 ⟨hvalid.ascending, List.pairwise_singleton _ _, ?_⟩
    intro r hmem last hlast hsame
    rw [List.mem_singleton.1 hlast] at hsame ⊢
    have hregistered : ⟨arena.id, r.minting⟩ ∈ ledger.registrations := by
      rw [← show r.builder = arena.id from hsame]
      exact hmem
    have hminted : r.minting ∈ arena.minted := by
      rw [← hshows.mintedBy_eq, mem_mintedBy]
      exact hregistered
    exact (GraphBuilder.owns_iff_minted.2 ⟨r.minting, hminted, rfl⟩).2

theorem Tracks.minted (h : ledger.Tracks arenas) (harena : arenas place = some arena)
    (name : String) (predicate : Predicate V) :
    (ledger.minted place ⟨arena.nextId, name, predicate⟩).Tracks
      (Function.update arenas place (some (arena.extend name predicate))) := by
  have hplace := h.builder?_of_some harena
  have hshows := h.shows place arena harena
  rw [minted_of_some hplace]
  refine h.update ?_ ?_ ?_ ⟨hshows.id_lt, ?_⟩
  · change ledger.builder? = Function.update ledger.builder? place (some arena.id)
    rw [← hplace, Function.update_eq_self]
  · intro other taken hother hsame
    exact h.apart other place taken arena hother harena hsame
  · intro taken hkept hne
    refine ⟨hkept.id_lt, ?_⟩
    rw [← hkept.mintedBy_eq]
    have : arena.id ≠ taken.id := fun hid => hne hid.symm
    simp [mintedBy, this]
  · rw [GraphBuilder.minted_extend, ← hshows.mintedBy_eq]
    change mintedBy _ arena.id = _
    simp [mintedBy]

end Ledger
end RuntimeContracts.Automaton
