/-
Module: ProstheticConscience.Library.Delivery
Purpose: Messages sent one after the other through a channel that may fail at any of them.
Trusted boundary: none
Main exports: sendOne, sendAll, Delivers, sendAll_delivers
-/
import Mathlib.Data.List.Basic

namespace ProstheticConscience

variable {ε α : Type*} (fate : Nat → Except ε Unit)

/-- Send a message after those that went through, where `fate` tells what the channel says to each
message in turn.  An error comes with the messages that went through before it. -/
def sendOne (sent : List α) (message : α) : Except (ε × List α) (List α) :=
  match fate sent.length with
  | .ok () => .ok (sent ++ [message])
  | .error error => .error (error, sent)

def sendAll (sent : List α) : List α → Except (ε × List α) (List α)
  | [] => .ok sent
  | message :: rest => sendOne fate sent message >>= fun sent => sendAll sent rest

/-- Sending a list of one message is sending the message. -/
theorem sendAll_singleton (sent : List α) (message : α) :
    sendAll fate sent [message] = sendOne fate sent message :=
  bind_pure _

/-- The messages went through, or those before the first one that failed. -/
inductive Delivers (messages : List α) : Except (ε × List α) (List α) → Prop where
  | whole (accepted : ∀ n < messages.length, fate n = .ok ()) : Delivers messages (.ok messages)
  | cut {error : ε} {sent later : List α} (accepted : ∀ n < sent.length, fate n = .ok ())
      (failed : fate sent.length = .error error) (notAll : later ≠ [])
      (inTurn : sent ++ later = messages) : Delivers messages (.error (error, sent))

variable {fate}

/-- What failed stays so when there was more to send. -/
theorem Delivers.extend {messages : List α} {failure : ε × List α}
    (delivers : Delivers fate messages (.error failure)) (more : List α) :
    Delivers fate (messages ++ more) (.error failure) := by
  cases delivers with
  | cut accepted failed notAll inTurn =>
      apply Delivers.cut accepted failed
      · exact List.append_ne_nil_of_left_ne_nil notAll more
      · rw [← inTurn, List.append_assoc]

/-- Sending messages one after the other delivers them: all of them, or those up to the first one
that is refused; by induction on the messages. -/
theorem sendAll_delivers {done : List α} (messages : List α)
    (accepted : ∀ n < done.length, fate n = .ok ()) :
    Delivers fate (done ++ messages) (sendAll fate done messages) := by
  induction messages generalizing done with
  | nil =>
      rw [List.append_nil]
      exact .whole accepted
  | cons message rest ih =>
      rw [sendAll, sendOne]
      cases next : fate done.length with
      | error error => exact .cut accepted next (List.cons_ne_nil message rest) rfl
      | ok result =>
          have through : ∀ n < (done ++ [message]).length, fate n = .ok () := by
            intro n bound
            rw [List.length_append, List.length_singleton] at bound
            rcases Nat.lt_succ_iff_lt_or_eq.mp bound with earlier | rfl
            · exact accepted n earlier
            · exact next
          have later := ih through
          rw [List.append_assoc] at later
          exact later

end ProstheticConscience
