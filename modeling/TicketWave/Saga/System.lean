import TicketWave.Inventory.Trace
import TicketWave.Order.Trail
import TicketWave.Payment.Receipts

/-!
# The three services together

A call that has broken down for its caller may still take effect.  `ours` tells
the IDs that order-svc draws: no other client confirms seats for such an order
or charges it.
-/

namespace TicketWave.Saga

open Library

variable {uuid : UuidText}

/-- A call that was sent: the run that sent it, if it was one, and the number
under which it is served. -/
structure Message where
  run : Option Nat
  call : Order.Call
  number : Nat
  deriving DecidableEq, Repr

def Message.seatCall (message : Message) : Option Inventory.Sent :=
  match message.call with
  | .seats method req => some ⟨message.number, method, req⟩
  | .charge _ => none

def Message.chargeCall (message : Message) : Option Payment.Sent :=
  match message.call with
  | .seats _ _ => none
  | .charge req => some ⟨message.number, req⟩

structure System (uuid : UuidText) where
  order : Order.State uuid
  inventory : Inventory.State uuid
  payment : Payment.State
  /-- every call that was sent, newest first -/
  wire : List Message

def System.empty (uuid : UuidText) : System uuid where
  order := Order.State.empty uuid
  inventory := Inventory.State.empty uuid
  payment := Payment.State.empty
  wire := []

def System.seatCalls (system : System uuid) : List Inventory.Sent :=
  system.wire.filterMap Message.seatCall

def System.chargeCalls (system : System uuid) : List Payment.Sent :=
  system.wire.filterMap Message.chargeCall

def System.hasAnswered
    (system : System uuid) (number : Nat) (reply : Option Status) :
    Order.Call → Bool
  | .seats _ _ => decide ((number, reply) ∈ system.inventory.answers)
  | .charge _ => decide ((number, reply) ∈ system.payment.answers)

inductive Label where
  /-- order-svc by itself: a request arrives, a database operation, a crash -/
  | order (label : Order.Label)
  /-- inventory-svc by itself, its sweeper included -/
  | inventory (label : Inventory.Label)
  /-- payment-svc by itself -/
  | payment (label : Payment.Label)
  /-- a call by another client -/
  | client (call : Order.Call)
  | send (run : Nat)
  | receive (run number : Nat) (reply : Option Status)
  /-- the call of the run ends with an error that its service did not send, or
  sent after another answer -/
  | breakdown (run : Nat) (err : Status)

section Step

variable (ours : UUID → Bool)

def internal : Order.Label → Bool
  | .start _ orderId => ours orderId
  | .database _ _ _ _ => true
  | .crash _ => true
  | .invoke _ => false
  | .answer _ _ => false

def foreign (uuid : UuidText) (orderId : String) : Bool :=
  (uuid.column orderId).all fun order => !ours order

def allowed (uuid : UuidText) : Order.Call → Bool
  | .seats .confirmSeats req => foreign ours uuid req.orderId
  | .seats _ _ => true
  | .charge req => foreign ours uuid req.orderId

def System.deliver (system : System uuid) (run : Option Nat) :
    Order.Call → Option (System uuid)
  | .seats method req =>
      (Inventory.step system.inventory (.beginCall method req)).map
        fun inventory =>
          { system with
            inventory := inventory
            wire :=
              ⟨run, .seats method req, system.inventory.tasks.next⟩ ::
                system.wire }
  | .charge req =>
      (Payment.step uuid system.payment (.beginCall req)).map fun payment =>
        { system with
          payment := payment
          wire :=
            ⟨run, .charge req, system.payment.calls.next⟩ :: system.wire }

def step (system : System uuid) : Label → Option (System uuid)
  | .order label =>
      if internal ours label then
        (Order.step system.order label).map fun order =>
          { system with order := order }
      else
        none
  | .inventory label =>
      if label.begins then
        none
      else
        (Inventory.step system.inventory label).map fun inventory =>
          { system with inventory := inventory }
  | .payment label =>
      if label.begins then
        none
      else
        (Payment.step uuid system.payment label).map fun payment =>
          { system with payment := payment }
  | .client call =>
      if allowed ours uuid call then system.deliver none call else none
  | .send id =>
      match (system.order.runs.get id).bind Order.Run.call with
      | none => none
      | some call =>
          (Order.step system.order (.invoke id)).bind fun order =>
            { system with order := order }.deliver (some id) call
  | .receive id number reply =>
      match (system.order.runs.get id).bind Order.Run.call with
      | none => none
      | some call =>
          if ⟨some id, call, number⟩ ∈ system.wire ∧
              system.hasAnswered number reply call then
            (Order.step system.order (.answer id reply)).map fun order =>
              { system with order := order }
          else
            none
  | .breakdown id err =>
      (Order.step system.order (.answer id (some err))).map fun order =>
        { system with order := order }

/-- The call reaches its service. -/
inductive Delivered (system : System uuid) (run : Option Nat) :
    Order.Call → System uuid → Prop
  | seats
      {method : Inventory.Method} {req : Inventory.SeatRequest}
      {inventory : Inventory.State uuid}
      (transition :
        Inventory.Transition system.inventory (.beginCall method req)
          inventory) :
      Delivered system run (.seats method req)
        { system with
          inventory := inventory
          wire :=
            ⟨run, .seats method req, system.inventory.tasks.next⟩ ::
              system.wire }
  | charge
      {req : Payment.ChargeRequest} {payment : Payment.State}
      (transition :
        Payment.Transition uuid system.payment (.beginCall req) payment) :
      Delivered system run (.charge req)
        { system with
          payment := payment
          wire :=
            ⟨run, .charge req, system.payment.calls.next⟩ :: system.wire }

inductive Transition (system : System uuid) : Label → System uuid → Prop
  | order
      {label : Order.Label} {order : Order.State uuid}
      (own : internal ours label = true)
      (transition : Order.Transition system.order label order) :
      Transition system (.order label) { system with order := order }
  | inventory
      {label : Inventory.Label} {inventory : Inventory.State uuid}
      (own : label.begins = false)
      (transition : Inventory.Transition system.inventory label inventory) :
      Transition system (.inventory label)
        { system with inventory := inventory }
  | payment
      {label : Payment.Label} {payment : Payment.State}
      (own : label.begins = false)
      (transition : Payment.Transition uuid system.payment label payment) :
      Transition system (.payment label) { system with payment := payment }
  | client
      {call : Order.Call} {next : System uuid}
      (permitted : allowed ours uuid call = true)
      (delivered : Delivered system none call next) :
      Transition system (.client call) next
  | sent
      {id : Nat} {run : Order.Run uuid} {call : Order.Call}
      {order : Order.State uuid} {next : System uuid}
      (running : system.order.runs.get id = some run)
      (calls : run.call = some call)
      (transition : Order.Transition system.order (.invoke id) order)
      (delivered :
        Delivered { system with order := order } (some id) call next) :
      Transition system (.send id) next
  | received
      {id number : Nat} {reply : Option Status} {run : Order.Run uuid}
      {call : Order.Call} {order : Order.State uuid}
      (running : system.order.runs.get id = some run)
      (calls : run.call = some call)
      (message : ⟨some id, call, number⟩ ∈ system.wire)
      (answered : system.hasAnswered number reply call = true)
      (transition : Order.Transition system.order (.answer id reply) order) :
      Transition system (.receive id number reply)
        { system with order := order }
  | broken
      {id : Nat} {err : Status} {order : Order.State uuid}
      (transition :
        Order.Transition system.order (.answer id (some err)) order) :
      Transition system (.breakdown id err) { system with order := order }

variable {ours}

theorem delivered_of_deliver {system next : System uuid} {run : Option Nat}
    {call : Order.Call} (delivered : system.deliver run call = some next) :
    Delivered system run call next := by
  cases call with
  | seats method req =>
      obtain ⟨inventory, stepped, rfl⟩ := Option.map_eq_some_iff.mp delivered
      exact .seats (Inventory.transition_of_step stepped)
  | charge req =>
      cases delivered
      exact .charge (.begun req)

theorem transition_of_step {system next : System uuid} {label : Label}
    (stepped : step ours system label = some next) :
    Transition ours system label next := by
  cases label with
  | order label =>
      simp only [step] at stepped
      split at stepped
      · rename_i own
        obtain ⟨order, ordered, rfl⟩ := Option.map_eq_some_iff.mp stepped
        exact .order own (Order.transition_of_step ordered)
      · cases stepped
  | inventory label =>
      simp only [step] at stepped
      split at stepped
      · cases stepped
      · rename_i own
        obtain ⟨inventory, moved, rfl⟩ := Option.map_eq_some_iff.mp stepped
        exact .inventory (Bool.eq_false_iff.mpr own)
          (Inventory.transition_of_step moved)
  | payment label =>
      simp only [step] at stepped
      split at stepped
      · cases stepped
      · rename_i own
        obtain ⟨payment, moved, rfl⟩ := Option.map_eq_some_iff.mp stepped
        exact .payment (Bool.eq_false_iff.mpr own)
          (Payment.transition_of_step moved)
  | client call =>
      simp only [step] at stepped
      split at stepped
      · rename_i permitted
        exact .client permitted (delivered_of_deliver stepped)
      · cases stepped
  | send id =>
      simp only [step] at stepped
      split at stepped
      · cases stepped
      · rename_i call found
        obtain ⟨run, running, calls⟩ := Option.bind_eq_some_iff.mp found
        obtain ⟨order, invoked, delivered⟩ := Option.bind_eq_some_iff.mp stepped
        exact .sent running calls (Order.transition_of_step invoked)
          (delivered_of_deliver delivered)
  | receive id number reply =>
      simp only [step] at stepped
      split at stepped
      · cases stepped
      · rename_i call found
        obtain ⟨run, running, calls⟩ := Option.bind_eq_some_iff.mp found
        split at stepped
        · rename_i answered
          obtain ⟨order, replied, rfl⟩ := Option.map_eq_some_iff.mp stepped
          exact .received running calls answered.1 answered.2
            (Order.transition_of_step replied)
        · cases stepped
  | breakdown id err =>
      obtain ⟨order, broke, rfl⟩ := Option.map_eq_some_iff.mp stepped
      exact .broken (Order.transition_of_step broke)

end Step

end TicketWave.Saga
