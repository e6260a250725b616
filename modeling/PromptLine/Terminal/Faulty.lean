import PromptLine.Dialogue

/-!
# Terminals that fail or forget

Two ways to make one terminal out of another. A faulty terminal fails at chosen calls, which then
do not reach the terminal inside. A terminal without flushing passes every call on except flushes,
which succeed and do nothing.
-/

namespace PromptLine

/-- A fault: a call of some kind that fails, once. -/
structure Fault where
  call : CallKind
  /-- The number of such calls that come before it. -/
  after : Nat
  kind : FailureKind
  /-- The number of such calls so far. -/
  seen : Nat := 0
deriving DecidableEq, Repr

namespace Fault

/-- Whether the fault strikes at a call that is made now. -/
def strikes (kind : CallKind) (fault : Fault) : Bool :=
  fault.call == kind && fault.seen == fault.after

/-- The fault after a call has been made. -/
def count (kind : CallKind) (fault : Fault) : Fault :=
  if fault.call = kind then { fault with seen := fault.seen + 1 } else fault

end Fault

/-- A terminal, and the faults that it is to have. -/
structure Faulty (σ : Type) where
  /-- The faults; of two that strike at the same call, the first decides. -/
  faults : List Fault := []
  inner : σ

namespace Faulty

variable {σ : Type}

/-- What a terminal with faults does about a call. -/
def answer (device : Terminal σ) (call : Call) (faulty : Faulty σ) :
    Answer (Faulty σ) call.Reply :=
  let faults := faulty.faults.map (Fault.count call.kind)
  match faulty.faults.find? (Fault.strikes call.kind) with
  | some fault => { reply := .error (.io fault.kind), terminal := { faulty with faults } }
  | none =>
    let inside := device.answer call faulty.inner
    { reply := inside.reply, terminal := { faults, inner := inside.terminal },
      events := inside.events }

/-- The terminal with its faults. -/
def terminal (device : Terminal σ) : Terminal (Faulty σ) where
  answer := answer device

end Faulty

namespace Terminal

variable {σ : Type}

/-- What a terminal without flushing does about a call. -/
def answerUnflushed (device : Terminal σ) : (call : Call) → σ → Answer σ call.Reply
  | .flush, terminal => { reply := .ok (), terminal }
  | call, terminal => device.answer call terminal

/-- The terminal when no flush ever reaches it. -/
def unflushed (device : Terminal σ) : Terminal σ where
  answer := device.answerUnflushed

end Terminal

end PromptLine
