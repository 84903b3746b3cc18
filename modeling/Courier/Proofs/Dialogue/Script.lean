import Courier.Proofs.Dialogue.Caller

/-!
# Conversations as they are planned

A client that converses only greets, as long as the server goes on, and then it
closes, calls nothing more, or is dismissed for a version that the server does not
support. Its calls alone tell what they will return and how many messages each side
will send.
-/

namespace Courier

open Client (Call Return)

/-- The status that a greeting of this version is answered with. -/
def verdict (version : UInt32) : Status := if version = protocolVersion then .ok else .unsupported

theorem isValid_answer (version : UInt32) : (Session.answer version).isValid = true := by
  unfold Session.answer
  split <;> decide

/-- How a conversation ends: the client stays, it closes, or it is dismissed for a version. -/
inductive Ending where
  | staying
  | leaving
  | dismissed (version : UInt32) (later : List Call)

namespace Ending

/-- The last calls, from the one that ends the conversation on. -/
def calls : Ending → List Call
  | staying => []
  | leaving => [.close]
  | dismissed version later => .greet version :: later

end Ending

/-- The calls of a conversation with an ending. -/
inductive Script (policy : Policy) : Ending → List Call → Prop where
  | staying : Script policy .staying []
  | leaving : Script policy .leaving [.close]
  | dismissed (version : UInt32) (later : List Call) (ends : policy.goesOnAfter (.greeting version) = false) :
      Script policy (.dismissed version later) (.greet version :: later)
  | greeting {ending : Ending} {calls : List Call} (version : UInt32)
      (goesOn : policy.goesOnAfter (.greeting version) = true) (rest : Script policy ending calls) :
      Script policy ending (.greet version :: calls)

/-- What is still to come of a conversation: what the calls return, and how many messages the client and the
server send. -/
structure Prospect where
  returns : List Return
  asks : Nat
  answers : Nat

/-- What calls return on a client that the server has dismissed, if they begin with taking notice. -/
def aftermath : List Call → List Return
  | .receive :: later => .received (.ok .disconnect) :: later.map Call.onClosed
  | _ => []

namespace Policy

/-- What is still to come of these calls. -/
def prospect (policy : Policy) : List Call → Prospect
  | .greet version :: later =>
      let rest := if policy.goesOnAfter (.greeting version) then policy.prospect later else ⟨aftermath later, 0, 1⟩
      ⟨.greeted (.ok (verdict version)) :: rest.returns, rest.asks + 1, rest.answers + 1⟩
  | .close :: _ => ⟨[.closed (.ok true)], 1, 0⟩
  | _ => ⟨[], 0, 0⟩

/-- What is still to come of the calls behind a greeting of this version. -/
def remainder (policy : Policy) (version : UInt32) (later : List Call) : Prospect :=
  if policy.goesOnAfter (.greeting version) then policy.prospect later else ⟨aftermath later, 0, 1⟩

/-- What is still to come once a greeting of this version is sent. -/
def outstanding (policy : Policy) (version : UInt32) (later : List Call) : Prospect :=
  ⟨.greeted (.ok (verdict version)) :: (policy.remainder version later).returns,
    (policy.remainder version later).asks, (policy.remainder version later).answers + 1⟩

theorem prospect_greet (policy : Policy) (version : UInt32) (later : List Call) :
    policy.prospect (.greet version :: later) =
      { policy.outstanding version later with asks := (policy.remainder version later).asks + 1 } := rfl

/-- The prospect of greetings after which the conversation goes on, and of what follows them. -/
theorem prospect_append {policy : Policy} {greetings : List UInt32}
    (goesOn : ∀ version ∈ greetings, policy.goesOnAfter (.greeting version) = true) (calls : List Call) :
    policy.prospect (greetings.map .greet ++ calls) =
      ⟨greetings.map (fun version => .greeted (.ok (verdict version))) ++ (policy.prospect calls).returns,
        greetings.length + (policy.prospect calls).asks, greetings.length + (policy.prospect calls).answers⟩ := by
  induction greetings with
  | nil => simp
  | cons version rest ih =>
      have first := goesOn version List.mem_cons_self
      have later := ih fun other present => goesOn other (List.mem_cons_of_mem _ present)
      rw [List.map_cons, List.cons_append, prospect_greet, outstanding, remainder, if_pos first, later]
      simp only [List.map_cons, List.cons_append, List.length_cons, Nat.add_right_comm]

end Policy

namespace Script

variable {policy : Policy} {ending : Ending} {calls : List Call}

theorem append {greetings : List UInt32}
    (goesOn : ∀ version ∈ greetings, policy.goesOnAfter (.greeting version) = true)
    (script : Script policy ending calls) : Script policy ending (greetings.map .greet ++ calls) := by
  induction greetings with
  | nil => exact script
  | cons version rest ih =>
      exact .greeting version (goesOn version List.mem_cons_self)
        (ih fun other present => goesOn other (List.mem_cons_of_mem _ present))

/-- After a greeting with which the conversation goes on, its script does. -/
theorem of_goesOn {version : UInt32} (script : Script policy ending (.greet version :: calls))
    (goesOn : policy.goesOnAfter (.greeting version) = true) : Script policy ending calls := by
  cases script with
  | dismissed _ _ ends =>
      rw [goesOn] at ends
      cases ends
  | greeting _ _ rest => exact rest

/-- A greeting with which the conversation does not go on is its end. -/
theorem of_ends {version : UInt32} (script : Script policy ending (.greet version :: calls))
    (ends : policy.goesOnAfter (.greeting version) = false) : ending = .dismissed version calls := by
  cases script with
  | dismissed => rfl
  | greeting _ goesOn =>
      rw [ends] at goesOn
      cases goesOn

end Script

end Courier
