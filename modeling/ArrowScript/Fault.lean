import ArrowScript.Handle

/-!
# Faults

A fault is a breach of the rules that the analysis itself keeps, not a problem in a program: a scope
recorded twice for one node, a node without a scope, no scope to work in, or spans of two files that
should be joined.
-/

namespace ArrowScript

/-- What went wrong inside the analysis. -/
inductive Fault
  | closedTwice (node : NodeId)
  | neverClosed (node : NodeId)
  | noOpenScope
  | filesDiffer (left right : String)
deriving DecidableEq

/-- The wording of a fault. -/
def Fault.message : Fault → String
  | .closedTwice ⟨index⟩ => s!"scope of node {index} closed twice"
  | .neverClosed ⟨index⟩ => s!"node {index} has no closed scope to reopen"
  | .noOpenScope => "no scope is open"
  | .filesDiffer left right => s!"cannot combine spans of different files: {left} and {right}"

end ArrowScript
