import RuntimeContracts.Automaton.Session
import RuntimeContracts.Behaviour.Session
import RuntimeContracts.Call.Session
import RuntimeContracts.Constrained.Session
import RuntimeContracts.Linear.Session
import RuntimeContracts.Modal.Session
import RuntimeContracts.Proofs.Predicate.Verdict
import RuntimeContracts.Script.Body
import RuntimeContracts.Script.Context
import RuntimeContracts.Settings.Session
import RuntimeContracts.Unique.Session
import RuntimeContracts.Proofs.Call.Pipeline
import RuntimeContracts.Proofs.Modal.Access
import RuntimeContracts.Proofs.Modal.Enforcement
import RuntimeContracts.Proofs.Modal.Lifecycle
import RuntimeContracts.Proofs.Modal.Refinement
import RuntimeContracts.Proofs.Run.Live
import RuntimeContracts.Proofs.Session.CallsLive
import RuntimeContracts.Proofs.Session.Twins
import RuntimeContracts.Proofs.Session.Objects
import RuntimeContracts.Proofs.Automaton.Construction
import RuntimeContracts.Proofs.Automaton.Access
import RuntimeContracts.Proofs.Automaton.Writes
import RuntimeContracts.Proofs.Automaton.Path
import RuntimeContracts.Proofs.Automaton.Bounds
import RuntimeContracts.Proofs.Automaton.Ledger
import RuntimeContracts.Proofs.Automaton.Ownership
import RuntimeContracts.Proofs.Session.Erasure
import RuntimeContracts.Proofs.Session.RefusedWrites
import RuntimeContracts.Proofs.Linear.Sequence
import RuntimeContracts.Proofs.Session.Modes
import RuntimeContracts.Proofs.Behaviour.Contexts
import RuntimeContracts.Proofs.Behaviour.History
import RuntimeContracts.Proofs.Behaviour.Exclusion
import RuntimeContracts.Proofs.Behaviour.Serial
import RuntimeContracts.Proofs.Constrained.Commits
import RuntimeContracts.Proofs.Modal.EventLog
import RuntimeContracts.Proofs.Automaton.RegistrationOrder
import RuntimeContracts.Proofs.Behaviour.Interchange
import RuntimeContracts.Proofs.Automaton.Successors
import RuntimeContracts.Proofs.Predicate.Conjunction
import RuntimeContracts.Proofs.Run.Retelling
import RuntimeContracts.Proofs.Session.Gating
import RuntimeContracts.Proofs.Unique.Separation
import RuntimeContracts.Proofs.Unique.Balance
import RuntimeContracts.Proofs.Automaton.TransitionLog
import RuntimeContracts.Proofs.Session.CommittedWrites
import RuntimeContracts.Proofs.Modal.Interruption
import RuntimeContracts.Proofs.Modal.Rearrangement
import RuntimeContracts.Proofs.Modal.ActivationOrder
import RuntimeContracts.Proofs.Automaton.Choice
import RuntimeContracts.Proofs.Linear.Progress
import RuntimeContracts.Proofs.Linear.FirstStep
import RuntimeContracts.Proofs.Call.Outcomes
import RuntimeContracts.Proofs.Automaton.Reconstruction
import RuntimeContracts.Proofs.Behaviour.Finalization
import RuntimeContracts.Proofs.Behaviour.SingleRun
import RuntimeContracts.Proofs.Modal.Evaluations
import RuntimeContracts.Proofs.Predicate.Naming
import RuntimeContracts.Proofs.Call.Configuration
