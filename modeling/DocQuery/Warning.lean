/-!
# Warnings

A warning is shown once; a log of labels keeps what has been shown.

- `Warning`: a message and the component that it comes from.
- `Warning.label`, `Warning.line`: the entry in the log, and the line for a terminal.
- `WarningLog`: what has been shown since the log was cleared.
- `WarningLog.warn`: shows a warning whose label is new.
-/

namespace DocQuery

/-- A message from a component. -/
structure Warning where
  component : String
  message : String
  deriving DecidableEq

namespace Warning

/-- The label under which the warning is kept: the component in brackets, and the message. -/
def label (w : Warning) : String := "[" ++ w.component ++ "] " ++ w.message

/-- The line that shows the warning on a terminal, in yellow. -/
def line (w : Warning) : String :=
  "\x1b[33m[Bramble " ++ w.component ++ "] ⚠ " ++ w.message ++ "\x1b[39m\n"

end Warning

/-- The labels of the warnings shown so far, the latest first. -/
structure WarningLog where
  labels : List String := []
  deriving DecidableEq

namespace WarningLog

/-- The log without any warning. -/
def empty : WarningLog := {}

/-- Whether a warning of the same label has been shown. -/
def hasWarned (log : WarningLog) (w : Warning) : Bool := log.labels.contains w.label

/-- Shows the warning, unless one of the same label has been shown: the new log and the text that
goes to the terminal. -/
def warn (log : WarningLog) (w : Warning) : WarningLog × String :=
  if log.hasWarned w then (log, "") else (⟨w.label :: log.labels⟩, w.line)

/-- Shows the warning, if there is one. -/
def warnOf (log : WarningLog) : Option Warning → WarningLog × String
  | some w => log.warn w
  | none => (log, "")

/-! ## What the log knows -/

@[simp] theorem hasWarned_empty (w : Warning) : empty.hasWarned w = false := rfl

theorem hasWarned_warn (log : WarningLog) (w v : Warning) :
    (log.warn w).1.hasWarned v = (v.label == w.label || log.hasWarned v) := by
  unfold warn
  split
  · rename_i h
    by_cases hv : v.label = w.label
    · simp_all [hasWarned]
    · simp [hv]
  · simp only [hasWarned, List.contains_cons]

end WarningLog

end DocQuery
