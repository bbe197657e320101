import RuntimeContracts.Proofs.Automaton.Coherence
import RuntimeContracts.Proofs.Session.Answered

/-!
# How graphs are constructed

A builder is made by calls that register states and connect them. The calls that succeeded determine
its states and their successors, whatever calls failed in between.
-/

namespace RuntimeContracts.GraphBuilder

variable {V : Type}

inductive Call (V : Type) where
  | register (name : String) (predicate : Predicate V)
  | connect (source target : StateHandle)

/-- Registering answers the new handle. -/
def perform : Call V → Act (GraphBuilder V) Violation (Option StateHandle)
  | .register name predicate => do
    let (id, extended) ← Act.lift ((← Act.get).register name predicate)
    Act.set extended
    return some id
  | .connect source target => do
    let connected ← Act.lift ((← Act.get).connect source target)
    Act.set connected
    return none

inductive CallEnd (builder : GraphBuilder V) :
    Call V → GraphBuilder V → Outcome Violation (Option StateHandle) → Prop where
  | registered {name : String} (predicate : Predicate V)
      (hfree : builder.index.get? name = none) :
      CallEnd builder (.register name predicate) (builder.extend name predicate)
        (.returned (some builder.nextId))
  | connected {source target : StateHandle} (hs : builder.Owns source)
      (ht : builder.Owns target) :
      CallEnd builder (.connect source target) (builder.link source target) (.returned none)
  | refused (call : Call V) (e : Violation) : CallEnd builder call builder (.refused e)

theorem perform_ends (builder : GraphBuilder V) (call : Call V) :
    CallEnd builder call (perform call builder).1 (perform call builder).2.outcome := by
  cases call with
  | register name predicate =>
    rw [perform, Act.get_bind]
    cases hget : builder.index.get? name with
    | none =>
      rw [register_of_free hget]
      exact .registered predicate hget
    | some id =>
      rw [register_of_taken hget]
      exact .refused _ _
  | connect source target =>
    rw [perform, Act.get_bind]
    by_cases hs : builder.Owns source
    · by_cases ht : builder.Owns target
      · rw [connect_of_owns hs ht]
        exact .connected hs ht
      · rw [connect_of_foreign_target hs ht]
        exact .refused _ _
    · rw [connect_of_foreign_source hs]
      exact .refused _ _

def built (id : Nat) (calls : List (Call V)) : GraphBuilder V :=
  Session.finalState perform (new id) calls

def successes (id : Nat) (calls : List (Call V)) : List (Call V × Option StateHandle) :=
  Session.answered perform (new id) calls

def minting? : Call V × Option StateHandle → Option (Minting V)
  | (.register name predicate, some handle) => some ⟨handle, name, predicate⟩
  | _ => none

def registrations (id : Nat) (calls : List (Call V)) : List (Minting V) :=
  (successes id calls).filterMap minting?

def Connected (id : Nat) (calls : List (Call V)) (source target : StateHandle) : Prop :=
  (.connect source target, none) ∈ successes id calls

structure Records (id : Nat) (done : List (Call V × Option StateHandle))
    (builder : GraphBuilder V) : Prop where
  id_eq : builder.id = id
  coherent : builder.Coherent
  minted_eq : builder.minted = done.filterMap minting?
  successors_iff : ∀ h state, h.graph = id → builder.states[h.index]? = some state →
    ∀ target, target ∈ state.successors ↔ (Call.connect h target, none) ∈ done
  owned : ∀ source target, (Call.connect source target, none) ∈ done → builder.Owns source

theorem records_new (id : Nat) : Records id [] (new id : GraphBuilder V) where
  id_eq := rfl
  coherent := coherent_new id
  minted_eq := rfl
  successors_iff h state _ hstate := by simp [new] at hstate
  owned source target hmem := by cases hmem

theorem Records.extend {id : Nat} {done : List (Call V × Option StateHandle)}
    {builder : GraphBuilder V} (h : Records id done builder) {name : String}
    (hfree : builder.index.get? name = none) (predicate : Predicate V) :
    Records id (done ++ [(.register name predicate, some builder.nextId)])
      (builder.extend name predicate) where
  id_eq := h.id_eq
  coherent := h.coherent.extend hfree predicate
  minted_eq := by
    rw [minted_extend, h.minted_eq, List.filterMap_append]
    rfl
  successors_iff source state hgraph hstate target := by
    rw [List.mem_append]
    rcases getElem?_extend.1 hstate with hold | ⟨hindex, rfl⟩
    · rw [h.successors_iff source state hgraph hold target]
      simp
    · -- The new state has no successors, and nothing was connected at its place before.
      refine iff_of_false (by simp) ?_
      rintro (hbefore | hnow)
      · have := (h.owned source target hbefore).2
        omega
      · simp at hnow
  owned source target hmem := by
    have hbefore : (Call.connect source target, none) ∈ done := by simpa using hmem
    exact (h.owned source target hbefore).extend name predicate

theorem Records.link {id : Nat} {done : List (Call V × Option StateHandle)}
    {builder : GraphBuilder V} (h : Records id done builder) {source target : StateHandle}
    (hs : builder.Owns source) (ht : builder.Owns target) :
    Records id (done ++ [(.connect source target, none)]) (builder.link source target) where
  id_eq := h.id_eq
  coherent := h.coherent.link source ht
  minted_eq := by
    rw [minted_link, h.minted_eq, List.filterMap_append]
    exact (List.append_nil _).symm
  successors_iff h' state hgraph hstate target' := by
    obtain ⟨old, hold, hsuccessors⟩ := getElem?_link hstate
    have hsame : source = h' ↔ source.index = h'.index := by
      have hgraphs : source.graph = h'.graph := by rw [hs.1, h.id_eq, hgraph]
      cases source
      cases h'
      simp_all
    rw [hsuccessors, h.successors_iff h' old hgraph hold, List.mem_append, ← hsame]
    simp [eq_comm]
  owned source' target' hmem := by
    rcases List.mem_append.1 hmem with hbefore | hnow
    · exact (h.owned source' target' hbefore).link source target
    · have hsource : source' = source := by
        rw [List.mem_singleton, Prod.mk.injEq, Call.connect.injEq] at hnow
        exact hnow.1.1
      rw [hsource]
      exact hs.link source target

/-- Whatever calls are made, in whatever order, the builder records those that succeeded. -/
theorem records_built (id : Nat) (calls : List (Call V)) :
    Records id (successes id calls) (built id calls) := by
  refine Session.answered_induction (motive := Records id) ?_ ?_ (records_new id) calls
  · intro done builder call answer h hanswer
    have hends := perform_ends builder call
    rw [hanswer] at hends
    generalize (perform call builder).1 = final at hends ⊢
    cases hends with
    | registered predicate hfree => exact h.extend hfree predicate
    | connected hs ht => exact h.link hs ht
  · intro done builder call h hnone
    have hends := perform_ends builder call
    generalize (perform call builder).1 = final at hends ⊢
    generalize (perform call builder).2.outcome = outcome at hends hnone
    cases hends with
    | registered predicate hfree => exact absurd rfl (hnone _)
    | connected hs ht => exact absurd rfl (hnone _)
    | refused call e => exact h

/-- A door that is ajar counts as open and as shut. -/
def doorCalls : List (Call String) :=
  [.register "open" (.named "open" fun door => .ok (door == "open" || door == "ajar")),
    .register "open" (.named "wide open" fun door => .ok (door == "open")),
    .register "shut" (.named "shut" fun door =>
      if door = "jammed" then .error "stuck" else .ok (door == "shut" || door == "ajar")),
    .connect ⟨0, 0⟩ ⟨0, 1⟩, .connect ⟨0, 0⟩ ⟨0, 0⟩, .connect ⟨0, 1⟩ ⟨3, 0⟩,
    .connect ⟨0, 1⟩ ⟨0, 0⟩]

end RuntimeContracts.GraphBuilder
