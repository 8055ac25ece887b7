import TicketWave.Kafka.Consumer
import TicketWave.Notification.Email

/-!
# The notification handler

`Handler.Handle` of `services/notification`, any number of calls, each in three
steps that can fail; a `SET` that reports an error may have been carried out.
`sends` only records the calls of `Send` that returned nil, and `Tag` is what a
caller wants to know of its call later.
-/

namespace TicketWave.Notification

open Library TicketWave.Order TicketWave.Kafka

/-- `key` of `dedup` -/
def markKey (messageId : String) : String :=
  "notification:sent:" ++ messageId

/-- 24 hours, in milliseconds. -/
def markTTL : Nat := 86400000

theorem markKey_inj {left right : String} (same : markKey left = markKey right) :
    left = right :=
  String.append_right_inj _ |>.mp same

/-- The deadlines of the keys in Redis. -/
abbrev Markers := String → Option Nat

/-- `EXISTS` -/
def Markers.has (markers : Markers) (now : Nat) (key : String) : Bool :=
  match markers key with
  | none => false
  | some deadline => decide (now < deadline)

inductive Progress where
  /-- before `Seen` -/
  | checking (messageId : String) (mail : Email)
  | sending (messageId : String) (mail : Email)
  /-- the mail is out and `Mark` is to come -/
  | marking (messageId : String)
  | returned (verdict : Verdict)
  deriving DecidableEq, Repr

/-- `Handle` up to its first step outside the process. -/
def Progress.start : Except String OrderEvent → Progress
  | .error text => .returned (.permanent text)
  | .ok ev =>
      if ev.messageId = "" then
        .returned
          (.permanent "event has no message_id, so it cannot be deduplicated")
      else
        match compose ev with
        | none => .returned .handled
        | some mail => .checking ev.messageId mail

structure Call (Tag : Type) where
  tag : Tag
  decoded : Except String OrderEvent
  progress : Progress

structure Send where
  messageId : String
  mail : Email
  deriving DecidableEq, Repr

structure Desk (Tag : Type) where
  markers : Markers
  clock : Nat
  calls : Registry (Call Tag)
  sends : List Send

variable {Tag : Type}

def Desk.new (Tag : Type) : Desk Tag where
  markers := fun _ => none
  clock := 0
  calls := Registry.empty
  sends := []

inductive Label (Tag : Type) where
  | tick (milliseconds : Nat)
  /-- Redis loses a key -/
  | forget (key : String)
  | handle (tag : Tag) (decoded : Except String OrderEvent)
  /-- Redis answers the `EXISTS`, or fails with this text -/
  | seen (call : Nat) (error : Option String)
  | send (call : Nat) (error : Option String)
  /-- `Mark` returns; on an error, whether the `SET` was carried out -/
  | mark (call : Nat) (ok stored : Bool)

def checkError (text : String) : Verdict :=
  .failed false ("check duplicate: redis exists: " ++ text)

def sendError (text : String) : Verdict :=
  .failed false ("send email: " ++ text)

/-- The call goes on with this. -/
def Desk.go (desk : Desk Tag) (id : Nat) (call : Call Tag)
    (progress : Progress) : Desk Tag :=
  { desk with calls := desk.calls.put id { call with progress := progress } }

def Desk.step (desk : Desk Tag) : Label Tag → Option (Desk Tag)
  | .tick milliseconds => some { desk with clock := desk.clock + milliseconds }
  | .forget key =>
      some { desk with markers := Function.update desk.markers key none }
  | .handle tag decoded =>
      some
        { desk with
          calls :=
            desk.calls.launch ⟨tag, decoded, Progress.start decoded⟩ }
  | .seen id error =>
      match desk.calls.get id with
      | some ⟨tag, decoded, .checking messageId mail⟩ =>
          let call : Call Tag := ⟨tag, decoded, .checking messageId mail⟩
          match error with
          | some text => some (desk.go id call (.returned (checkError text)))
          | none =>
              if desk.markers.has desk.clock (markKey messageId) then
                some (desk.go id call (.returned .handled))
              else
                some (desk.go id call (.sending messageId mail))
      | _ => none
  | .send id error =>
      match desk.calls.get id with
      | some ⟨tag, decoded, .sending messageId mail⟩ =>
          let call : Call Tag := ⟨tag, decoded, .sending messageId mail⟩
          match error with
          | some text => some (desk.go id call (.returned (sendError text)))
          | none =>
              some
                { desk.go id call (.marking messageId) with
                  sends := ⟨messageId, mail⟩ :: desk.sends }
      | _ => none
  | .mark id ok stored =>
      match desk.calls.get id with
      | some ⟨tag, decoded, .marking messageId⟩ =>
          -- an error is logged and nil is returned all the same
          some
            { desk.go id ⟨tag, decoded, .marking messageId⟩
                (.returned .handled) with
              markers :=
                if ok || stored then
                  Function.update desk.markers (markKey messageId)
                    (some (desk.clock + markTTL))
                else
                  desk.markers }
      | _ => none

inductive Transition (desk : Desk Tag) : Label Tag → Desk Tag → Prop
  | ticked (milliseconds : Nat) :
      Transition desk (.tick milliseconds)
        { desk with clock := desk.clock + milliseconds }
  | forgot (key : String) :
      Transition desk (.forget key)
        { desk with markers := Function.update desk.markers key none }
  | handled (tag : Tag) (decoded : Except String OrderEvent) :
      Transition desk (.handle tag decoded)
        { desk with
          calls :=
            desk.calls.launch ⟨tag, decoded, Progress.start decoded⟩ }
  | checkFailed
      {id : Nat} {call : Call Tag} {messageId : String} {mail : Email}
      (text : String)
      (found : desk.calls.get id = some call)
      (stage : call.progress = .checking messageId mail) :
      Transition desk (.seen id (some text))
        (desk.go id call (.returned (checkError text)))
  | skipped
      {id : Nat} {call : Call Tag} {messageId : String} {mail : Email}
      (found : desk.calls.get id = some call)
      (stage : call.progress = .checking messageId mail)
      (marked : desk.markers.has desk.clock (markKey messageId) = true) :
      Transition desk (.seen id none) (desk.go id call (.returned .handled))
  | cleared
      {id : Nat} {call : Call Tag} {messageId : String} {mail : Email}
      (found : desk.calls.get id = some call)
      (stage : call.progress = .checking messageId mail)
      (unmarked : desk.markers.has desk.clock (markKey messageId) = false) :
      Transition desk (.seen id none)
        (desk.go id call (.sending messageId mail))
  | sendFailed
      {id : Nat} {call : Call Tag} {messageId : String} {mail : Email}
      (text : String)
      (found : desk.calls.get id = some call)
      (stage : call.progress = .sending messageId mail) :
      Transition desk (.send id (some text))
        (desk.go id call (.returned (sendError text)))
  | sent
      {id : Nat} {call : Call Tag} {messageId : String} {mail : Email}
      (found : desk.calls.get id = some call)
      (stage : call.progress = .sending messageId mail) :
      Transition desk (.send id none)
        { desk.go id call (.marking messageId) with
          sends := ⟨messageId, mail⟩ :: desk.sends }
  | marked
      {id : Nat} {call : Call Tag} {messageId : String} (ok stored : Bool)
      (found : desk.calls.get id = some call)
      (stage : call.progress = .marking messageId) :
      Transition desk (.mark id ok stored)
        { desk.go id call (.returned .handled) with
          markers :=
            if ok || stored then
              Function.update desk.markers (markKey messageId)
                (some (desk.clock + markTTL))
            else
              desk.markers }

variable {desk : Desk Tag} {messageId : String}

theorem transition_of_step {next : Desk Tag} {label : Label Tag}
    (stepped : desk.step label = some next) : Transition desk label next := by
  cases label with
  | tick milliseconds =>
      cases stepped
      exact .ticked milliseconds
  | forget key =>
      cases stepped
      exact .forgot key
  | handle tag decoded =>
      cases stepped
      exact .handled tag decoded
  | seen id error =>
      simp only [Desk.step] at stepped
      split at stepped
      · rename_i tag decoded messageId mail found
        split at stepped
        · rename_i text
          cases stepped
          exact .checkFailed text found rfl
        · split at stepped
          · rename_i marked
            cases stepped
            exact .skipped found rfl marked
          · rename_i unmarked
            cases stepped
            exact .cleared found rfl (by simpa using unmarked)
      · cases stepped
  | send id error =>
      simp only [Desk.step] at stepped
      split at stepped
      · rename_i tag decoded messageId mail found
        split at stepped
        · rename_i text
          cases stepped
          exact .sendFailed text found rfl
        · cases stepped
          exact .sent found rfl
      · cases stepped
  | mark id ok stored =>
      simp only [Desk.step] at stepped
      split at stepped
      · rename_i tag decoded messageId found
        cases stepped
        exact .marked ok stored found rfl
      · cases stepped

/-- The call handles an event that is mailed, under this message ID. -/
structure Call.About (call : Call Tag) (messageId : String) : Prop where
  named : messageId ≠ ""
  mailed :
    ∃ ev mail,
      call.decoded = .ok ev ∧ ev.messageId = messageId ∧ compose ev = some mail

theorem Call.About.unique {call : Call Tag} {left right : String}
    (first : call.About left) (second : call.About right) : left = right := by
  obtain ⟨ev, _, decoded, rfl, _⟩ := first.mailed
  obtain ⟨other, _, alsoDecoded, rfl, _⟩ := second.mailed
  rw [decoded] at alsoDecoded
  cases alsoDecoded
  rfl

/-- The message of a call that has not returned. -/
def Progress.message : Progress → Option String
  | .checking messageId _ => some messageId
  | .sending messageId _ => some messageId
  | .marking messageId => some messageId
  | .returned _ => none

theorem Progress.start_message {tag : Tag} {decoded : Except String OrderEvent}
    (stage : (Progress.start decoded).message = some messageId) :
    Call.About ⟨tag, decoded, Progress.start decoded⟩ messageId := by
  cases decoded with
  | error text => cases stage
  | ok ev =>
      by_cases unnamed : ev.messageId = ""
      · simp [Progress.start, unnamed, Progress.message] at stage
      · cases composed : compose ev with
        | none =>
            simp [Progress.start, unnamed, composed, Progress.message] at stage
        | some mail =>
            have own : ev.messageId = messageId := by
              simpa [Progress.start, unnamed, composed, Progress.message]
                using stage
            exact
              { named := own ▸ unnamed
                mailed := ⟨ev, mail, rfl, own, composed⟩ }

theorem Progress.start_of_about {tag : Tag} {decoded : Except String OrderEvent}
    {progress : Progress}
    (about : Call.About ⟨tag, decoded, progress⟩ messageId) :
    ∃ mail, Progress.start decoded = .checking messageId mail := by
  obtain ⟨ev, mail, isOk, rfl, composed⟩ := about.mailed
  have decodes : decoded = .ok ev := isOk
  exact ⟨mail, by simp [decodes, Progress.start, about.named, composed]⟩

theorem Progress.start_cases (decoded : Except String OrderEvent) :
    (∃ verdict, Progress.start decoded = .returned verdict) ∨
      ∃ messageId mail, Progress.start decoded = .checking messageId mail := by
  unfold Progress.start
  split
  · exact Or.inl ⟨_, rfl⟩
  · split
    · exact Or.inl ⟨_, rfl⟩
    · split
      · exact Or.inl ⟨_, rfl⟩
      · exact Or.inr ⟨_, _, rfl⟩

/-- A call that has not returned handles an event that is mailed. -/
def Attributed (desk : Desk Tag) : Prop :=
  ∀ {id : Nat} {call : Call Tag} {messageId : String},
    desk.calls.get id = some call →
      call.progress.message = some messageId → call.About messageId

theorem attributed_new : Attributed (Desk.new Tag) := nofun

theorem attributed_go {id : Nat} {call : Call Tag} {progress : Progress}
    (attributed : Attributed desk) (found : desk.calls.get id = some call)
    (stage : call.progress.message = some messageId)
    (later : progress.message = some messageId ∨ progress.message = none) :
    Attributed (desk.go id call progress) := by
  intro key value wanted got isAt
  rcases Registry.cases_of_get_put got with ⟨_, rfl⟩ | ⟨_, stored⟩
  · rcases later with same | gone
    · have own : messageId = wanted := Option.some.inj (same.symm.trans isAt)
      have about := attributed found stage
      rw [own] at about
      exact ⟨about.named, about.mailed⟩
    · rw [show progress.message = _ from isAt] at gone
      cases gone
  · exact attributed stored isAt

theorem attributed_of_transition {next : Desk Tag} {label : Label Tag}
    (attributed : Attributed desk) (transition : Transition desk label next) :
    Attributed next := by
  cases transition with
  | ticked milliseconds => exact attributed
  | forgot key => exact attributed
  | handled tag decoded =>
      intro id call messageId found stage
      rcases Registry.cases_of_get_launch found with ⟨_, rfl⟩ | stored
      · exact Progress.start_message stage
      · exact attributed stored stage
  | checkFailed text found stage =>
      exact attributed_go attributed found (congrArg Progress.message stage)
        (Or.inr rfl)
  | skipped found stage marked =>
      exact attributed_go attributed found (congrArg Progress.message stage)
        (Or.inr rfl)
  | cleared found stage unmarked =>
      exact attributed_go attributed found (congrArg Progress.message stage)
        (Or.inl rfl)
  | sendFailed text found stage =>
      exact attributed_go attributed found (congrArg Progress.message stage)
        (Or.inr rfl)
  | sent found stage =>
      exact attributed_go attributed found (congrArg Progress.message stage)
        (Or.inl rfl)
  | marked ok stored found stage =>
      exact attributed_go attributed found (congrArg Progress.message stage)
        (Or.inr rfl)

end TicketWave.Notification
