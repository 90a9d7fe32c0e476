import Mathlib.Data.List.Basic

/-! Programs that send events into a channel and may fail. A receiver that is gone
makes sending fail; to a live one a program emits a list of events. The rules give
the events of a program from those of its parts. -/

namespace Sending

variable {ε φ α β : Type}

/-- What was sent so far, and after how many events the receiver goes, if it does. -/
structure Channel (ε : Type) where
  sent : List ε
  room : Option Nat

abbrev Sender (ε φ : Type) := ExceptT φ (StateM (Channel ε))

/-- Sends one event, or fails because the receiver is gone. -/
def send (gone : φ) (event : ε) : Sender ε φ Unit := do
  let channel ← get
  if channel.room.any (· ≤ channel.sent.length) then throw gone
  else set { channel with sent := channel.sent ++ [event] }

/-- The events that a program sends into a new channel, and its outcome. -/
def deliver (room : Option Nat) (program : Sender ε φ α) : List ε × Except φ α :=
  let (outcome, channel) := program.run.run ⟨[], room⟩
  (channel.sent, outcome)

/-- To a live receiver the program sends these events and returns, and they satisfy
the postcondition. -/
def Emits (program : Sender ε φ α) (post : List ε → α → Prop) : Prop :=
  ∀ sent, ∃ events value, program.run.run ⟨sent, none⟩ = (.ok value, ⟨sent ++ events, none⟩) ∧ post events value

namespace Emits

theorem delivers {program : Sender ε φ α} {post : List ε → α → Prop} (emits : Emits program post) :
    ∃ events value, deliver none program = (events, .ok value) ∧ post events value := by
  obtain ⟨events, value, ran, holds⟩ := emits []
  exact ⟨events, value, by rw [deliver, ran, List.nil_append], holds⟩

theorem pure {value : α} {post : List ε → α → Prop} (holds : post [] value) :
    Emits (Pure.pure value : Sender ε φ α) post :=
  fun sent => ⟨[], value, by rw [List.append_nil]; rfl, holds⟩

theorem send {gone : φ} {event : ε} {post : List ε → Unit → Prop} (holds : post [event] ()) :
    Emits (Sending.send gone event) post :=
  fun _ => ⟨[event], (), rfl, holds⟩

theorem bind {program : Sender ε φ α} {next : α → Sender ε φ β} {middle : List ε → α → Prop}
    {post : List ε → β → Prop} (first : Emits program middle)
    (rest : ∀ events value, middle events value → Emits (next value) fun later result => post (events ++ later) result) :
    Emits (program >>= next) post := by
  intro sent
  obtain ⟨events, value, ran, holds⟩ := first sent
  obtain ⟨later, result, ran', holds'⟩ := rest events value holds (sent ++ events)
  refine ⟨events ++ later, result, ?_, holds'⟩
  rw [← List.append_assoc, ← ran', ExceptT.run_bind, StateT.run_bind, ran]
  rfl

/-- Sending an event before the rest of a program puts it in front of what that emits. -/
theorem send_bind {gone : φ} {event : ε} {next : Unit → Sender ε φ β} {post : List ε → β → Prop}
    (rest : Emits (next ()) fun later result => post (event :: later) result) :
    Emits (Sending.send gone event >>= next) post := by
  have sent : Emits (Sending.send gone event : Sender ε φ Unit) fun events _ => events = [event] := send rfl
  refine bind sent ?_
  rintro _ _ rfl
  exact rest

theorem mono {program : Sender ε φ α} {post weaker : List ε → α → Prop} (emits : Emits program post)
    (implies : ∀ events value, post events value → weaker events value) : Emits program weaker := by
  intro sent
  obtain ⟨events, value, ran, holds⟩ := emits sent
  exact ⟨events, value, ran, implies events value holds⟩

end Emits

end Sending
