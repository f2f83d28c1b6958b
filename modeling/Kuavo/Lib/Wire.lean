import Kuavo.Lib.Runs

/-!
A sender, a receiver, and a wire between them that loses, duplicates and reorders messages.

What was sent stays on the wire: it may arrive at any time later, any number of times, or never.
The wire makes no message up. So all that a receiver can come to know is what the sender said in
one of the states it has been in.
-/

namespace Kuavo.Lib.Wire

open Kuavo.Lib.Runs

/-- The two parties, the states in which the sender has sent, and what was sent. -/
structure Link (R S M : Type*) where
  receiver : R
  sender : S
  was : List S := []
  sent : List M := []

inductive Event (I J H : Type*)
  /-- The receiver does something of its own. -/
  | act (i : I)
  /-- The sender does something, and sends. -/
  | emit (j : J)
  /-- A message that was sent arrives. -/
  | arrive (n : ℕ) (how : H)

variable {R S M I J H : Type*}
variable (act : R → I → R) (emit : S → J → S × List M) (receive : R → H → M → R)

def step (l : Link R S M) : Event I J H → Link R S M
  | .act i => { l with receiver := act l.receiver i }
  | .emit j =>
    let r := emit l.sender j
    { l with sender := r.1, was := l.was ++ [r.1], sent := l.sent ++ r.2 }
  | .arrive n how =>
    { l with
      receiver :=
        match l.sent[n]? with
        | some m => receive l.receiver how m
        | none => l.receiver }

variable {Says : S → M → Prop}

end Kuavo.Lib.Wire
