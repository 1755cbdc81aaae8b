/-
The ways in which rendering can break off. Each names an invariant of the
renderer that did not hold; none of them arises on a pool without a
containment cycle.
-/
namespace KotlinMetadata

/-- A broken invariant of the renderer. -/
inductive Fault where
  /-- A buffer was to be closed and none is open. -/
  | noBufferToClose
  /-- A text was to be written and no buffer is open. -/
  | noActiveBuffer
  /-- The indentation was to be undone and there is none. -/
  | noIndentation
  /-- A scope was to be left and none is open. -/
  | noScopeToLeave
  /-- A declaration was to be rendered outside every scope. -/
  | noEnclosingScope
  /-- The rendering of an artifact left a buffer, a scope or an indentation behind. -/
  | unbalanced (artifact : String)
  /-- An artifact contains itself. -/
  | containmentCycle
deriving DecidableEq, Repr

/-- The message for a fault. -/
def Fault.message : Fault → String
  | .noBufferToClose => "output buffer stack underflow"
  | .noActiveBuffer => "write with no active output buffer"
  | .noIndentation => "outdent below zero indentation"
  | .noScopeToLeave => "context frame stack underflow"
  | .noEnclosingScope => "no context frame for leaf node"
  | .unbalanced artifact => "unbalanced output after printing " ++ artifact
  | .containmentCycle => "an artifact contains itself"

end KotlinMetadata
