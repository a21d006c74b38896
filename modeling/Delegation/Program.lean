import Delegation.Dispatcher
import Delegation.Gateway.Basic
import Delegation.Host

/-!
# The program at work

A dispatcher together with whoever answers its questions: the collaborators inside the program
and, on the real backend, the gateway. The network is an argument, so the program is the same
whether requests go out or are answered by a script.
-/

namespace Delegation

structure Program where
  dispatcher : Dispatcher
  /-- The way to the remote side. The simulating backend has none. -/
  gateway : Option Gateway

namespace Program

/-- The program that a configuration describes. It always has a memory. -/
def ofConfig (c : Config) : Except Config.LoadError Program :=
  match c.backend with
  | .mock => .ok ⟨⟨c, true⟩, none⟩
  | .real => (Gateway.ofConfig c.gateway).map fun g => ⟨⟨c, true⟩, some g⟩

/-- The collaborators inside the program, before anything was asked of them. -/
def host (p : Program) : Host := .ofConfig p.dispatcher.config.mock

variable {m : Type → Type} [Monad m]

/-- Why a program without a gateway gets no answer from the remote side. -/
def noGateway : String := "no gateway"

def replyOf (r : Except Gateway.Fault Json) : Reply Json := r.mapError Gateway.Fault.message

/-- Answer a question to the remote side over the gateway, any other inside. -/
def answer (p : Program) (send : Gateway.Request → m Gateway.Exchange) :
    (q : Question) → StateT Host m q.Answer
  | .invoke i =>
    match p.gateway with
    | some g => replyOf <$> (g.invoke send i : m _)
    | none => return .error noGateway
  | .call c =>
    match p.gateway with
    | some g => replyOf <$> (g.call send c : m _)
    | none => return .error noGateway
  | q => fun h => return h.answer (.error noGateway) q

def run {α : Type} (p : Program) (send : Gateway.Request → m Gateway.Exchange)
    (procedure : Procedure α) : StateT Host m α :=
  procedure.perform (p.answer send)

end Program

end Delegation
