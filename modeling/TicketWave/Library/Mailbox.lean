import Mathlib.Data.List.Infix

/-!
# Mailboxes of bounded size

A full mailbox drops the item and is closed for good, so its reader gets an
unbroken first part of what was sent.
-/

namespace TicketWave.Library

universe u

structure Mailbox (Item : Type u) where
  buffer : List Item
  closed : Bool
  received : List Item
  deriving DecidableEq, Repr

inductive MailboxOp (Item : Type u) where
  | send (item : Item)
  | receive
  | close
  deriving DecidableEq, Repr

namespace Mailbox

variable {Item : Type u} {capacity : Nat}

def empty : Mailbox Item :=
  ⟨[], false, []⟩

def apply (capacity : Nat) (box : Mailbox Item) :
    MailboxOp Item → Mailbox Item
  | .send item =>
      if box.closed then box
      else if box.buffer.length < capacity then
        { box with buffer := box.buffer ++ [item] }
      else
        { box with closed := true }
  | .receive =>
      match box.buffer with
      | [] => box
      | item :: rest =>
          { box with buffer := rest, received := box.received ++ [item] }
  | .close => { box with closed := true }

def applyAll (capacity : Nat) (box : Mailbox Item)
    (ops : List (MailboxOp Item)) : Mailbox Item :=
  ops.foldl (apply capacity) box

/-- What the reader has or can still get. -/
def seen (box : Mailbox Item) : List Item :=
  box.received ++ box.buffer

def sentBy : MailboxOp Item → Option Item
  | .send item => some item
  | _ => none

/-- The items that somebody tried to send. -/
def sent (ops : List (MailboxOp Item)) : List Item :=
  ops.filterMap sentBy

@[simp]
theorem seen_receive (box : Mailbox Item) :
    (box.apply capacity .receive).seen = box.seen := by
  unfold apply seen
  cases shape : box.buffer with
  | nil => simp [shape]
  | cons item rest => simp

@[simp]
theorem closed_receive (box : Mailbox Item) :
    (box.apply capacity .receive).closed = box.closed := by
  unfold apply
  cases box.buffer <;> rfl

variable {box : Mailbox Item}

@[simp]
theorem apply_send_of_closed (closed : box.closed = true) (item : Item) :
    box.apply capacity (.send item) = box := by
  rw [apply, if_pos closed]

theorem apply_close_of_closed (closed : box.closed = true) :
    box.apply capacity .close = box := by
  obtain ⟨buffer, isClosed, received⟩ := box
  cases closed
  rfl

/-- A full mailbox reacts to an item as to being closed. -/
theorem apply_send_of_full (opened : box.closed = false)
    (full : ¬ box.buffer.length < capacity) (item : Item) :
    box.apply capacity (.send item) = box.apply capacity .close := by
  rw [apply, if_neg (by simp [opened]), if_neg full, apply]

/-- The reader gets a first part of what was sent, and all of it as long as
the mailbox is open. -/
structure Follows (box : Mailbox Item) (items : List Item) : Prop where
  unbroken : box.seen <+: items
  whole : box.closed = false → box.seen = items

theorem follows_empty : Follows (empty : Mailbox Item) [] where
  unbroken := List.prefix_rfl
  whole := fun _ => rfl

theorem Follows.apply {items : List Item} (follows : box.Follows items)
    (capacity : Nat) (op : MailboxOp Item) :
    (box.apply capacity op).Follows (items ++ (sentBy op).toList) := by
  have grown : box.seen <+: items ++ (sentBy op).toList :=
    follows.unbroken.trans (List.prefix_append _ _)
  cases op with
  | send item =>
      by_cases closed : box.closed = true
      · rw [apply_send_of_closed closed]
        refine ⟨grown, ?_⟩
        intro opened
        rw [opened] at closed
        cases closed
      · have opened : box.closed = false := by simpa using closed
        by_cases room : box.buffer.length < capacity
        · have shape :
              (box.apply capacity (.send item)).seen = items ++ [item] := by
            rw [Mailbox.apply, if_neg closed, if_pos room, seen,
              ← List.append_assoc]
            exact congrArg (· ++ [item]) (follows.whole opened)
          exact ⟨by rw [shape]; exact List.prefix_rfl, fun _ => shape⟩
        · rw [apply_send_of_full opened room]
          refine ⟨grown, ?_⟩
          intro stillOpen
          cases stillOpen
  | receive =>
      refine ⟨by rw [seen_receive]; exact grown, ?_⟩
      intro opened
      rw [closed_receive] at opened
      rw [seen_receive, follows.whole opened]
      exact (List.append_nil items).symm
  | close =>
      refine ⟨grown, ?_⟩
      intro opened
      cases opened

theorem Follows.applyAll {items : List Item} (follows : box.Follows items)
    (capacity : Nat) (ops : List (MailboxOp Item)) :
    (box.applyAll capacity ops).Follows (items ++ sent ops) := by
  induction ops generalizing box items with
  | nil =>
      rw [sent, List.filterMap_nil, List.append_nil]
      exact follows
  | cons op rest ih =>
      have later := ih (follows.apply capacity op)
      have items_eq :
          items ++ (sentBy op).toList ++ sent rest =
            items ++ sent (op :: rest) := by
        rw [List.append_assoc, sent, sent, List.filterMap_cons]
        cases sentBy op <;> rfl
      rw [items_eq] at later
      exact later

end Mailbox

end TicketWave.Library
