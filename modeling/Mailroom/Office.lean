import Mailroom.Builder
import Mailroom.Delivery.Desk

/-!
An office: one builder and the delivery desk that its message goes to. A run of an office is any
sequence of builder calls, sends and steps at the desk.
-/

namespace Mailroom

structure Office where
  builder : Builder
  desk : Delivery.Desk

namespace Office

def ofSettings (c : Settings) : Office := ⟨.ofSettings c, .empty⟩

inductive Step
  | call (c : Builder.Call)
  | send
  | desk (step : Delivery.Desk.Step)

/-- The courier that takes a message to the desk. -/
def courier (service : Delivery.Service) : Builder.Courier Delivery.Desk := fun m =>
  Delivery.Desk.send service (some m)

def onBoth {α : Type} (x : Action (Builder × Delivery.Desk) α) : Action Office α :=
  .within (fun o => (o.builder, o.desk)) (fun (b, d) _ => ⟨b, d⟩) x

/-- An action on the builder. -/
def onBuilder {α : Type} (x : Action Builder α) : Action Office α :=
  .within builder (fun b o => { o with builder := b }) x

/-- An action on the desk. -/
def onDesk {α : Type} (x : Action Delivery.Desk α) : Action Office α :=
  .within desk (fun d o => { o with desk := d }) x

def send (rules : Rules) (courier : Option (Builder.Courier Delivery.Desk)) :
    Action Office Value :=
  onBoth (Builder.send rules courier)

def perform (rules : Rules) (service : Delivery.Service) : Step → Action Office Builder.Answer
  | .call c => onBuilder (Builder.perform rules c)
  | .send => do return .value (← send rules (some (courier service)))
  | .desk step => do return .value (← onDesk (Delivery.Desk.perform service step))

end Office

end Mailroom
