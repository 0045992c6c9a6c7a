/-
**A host behind a wire.**

A transport carries messages to the services and brings back what they answer.  Together with the
written form of requests and the reading of replies it is a host.

Main definitions:

* `Cutover.Wire.Transport` — what carries messages;
* `Cutover.Wire.Transport.host` — the host behind it.
-/
import Cutover.Cloud.Run
import Cutover.Wire.Message
import Cutover.Wire.Reply

set_option autoImplicit false

namespace Cutover.Wire

/-- What carries messages: the response to each, and the state of the carrier after it. -/
structure Transport (σ : Type) where
  send : Message → σ → Response × σ

/-- The host behind a transport.  A request that cannot be written is answered without a message;
output is taken without one. -/
def Transport.host {σ : Type} (t : Transport σ) (rounds : Nat) : Host σ where
  rounds
  answer request state :=
    match request.message? with
    | .error e => ⟨.error e, 0, state⟩
    | .ok none => ⟨request.read (.document .null), 0, state⟩
    | .ok (some message) =>
      let (response, state) := t.send message state
      ⟨request.read response, 0, state⟩

end Cutover.Wire
