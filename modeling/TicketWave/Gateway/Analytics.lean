import TicketWave.Analytics.Queries
import TicketWave.Gateway.Respond
import TicketWave.Inventory.Queries
import TicketWave.Library.Text
import Mathlib.Logic.Function.Basic

/-!
# The sales list of the gateway

The handler of `GET /api/analytics/events` joins the numbers of analytics-svc
with the names of inventory-svc, each of them cut off on its own.
-/

namespace TicketWave.Gateway

open Library

/-- `strconv.ParseInt(raw, 10, 32)` -/
def parseInt32 (raw : String) : Option Int :=
  let (negative, digits) :=
    match raw.toList with
    | '-' :: rest => (true, String.ofList rest)
    | '+' :: rest => (false, String.ofList rest)
    | _ => (false, raw)
  match readDecimal digits with
  | none => none
  | some magnitude =>
      let value : Int := if negative then -magnitude else magnitude
      if -2147483648 ≤ value ∧ value ≤ 2147483647 then some value else none

/-- `queryLimit`; a parameter that is missing reads as the empty text. -/
def queryLimit (raw : String) : Except HttpError Int :=
  let refused : HttpError :=
    ⟨400, "invalid_argument", "limit must be a positive whole number"⟩
  if raw = "" then
    .ok 0
  else
    match parseInt32 raw with
    | none => .error refused
    | some n => if n < 1 then .error refused else .ok n

structure StatsView where
  eventId : String
  eventName : String
  ticketsSold : Int
  revenueCents : Int
  ordersConfirmed : Int
  ordersFailed : Int
  updatedAt : Nat
  deriving DecidableEq, Repr

inductive AnalyticsReply where
  | error (err : HttpError)
  | events (status : Nat) (views : List StatsView)
  deriving DecidableEq, Repr

/-- The map `names`; a name that is missing reads as the empty text. -/
def eventNames (events : List Inventory.Event) : String → String :=
  events.foldl
    (fun names event => Function.update names event.id event.name)
    fun _ => ""

def statsView (names : String → String) (stats : Analytics.EventStats) :
    StatsView where
  eventId := stats.eventId
  eventName := names stats.eventId
  ticketsSold := stats.ticketsSold
  revenueCents := stats.revenueCents
  ordersConfirmed := stats.ordersConfirmed
  ordersFailed := stats.ordersFailed
  updatedAt := stats.updatedAt

/-- The handler, given what the two services answer to a limit. -/
def listAnalytics
    (listEventStats : Int → Except Status (List Analytics.EventStats))
    (listEvents : Int → Except Status (List Inventory.Event))
    (raw : String) : AnalyticsReply :=
  match queryLimit raw with
  | .error err => .error err
  | .ok limit =>
      match listEventStats limit with
      | .error err => .error (httpError err)
      | .ok stats =>
          let names :=
            match listEvents 200 with
            | .error _ => fun _ => ""
            | .ok events => eventNames events
          .events 200 (stats.map (statsView names))

section Names

variable {events : List Inventory.Event} {names : String → String}

theorem eventNames_of_not_mem
    {id : String} (absent : id ∉ events.map Inventory.Event.id) :
    events.foldl
        (fun names event => Function.update names event.id event.name)
        names id =
      names id := by
  induction events generalizing names with
  | nil => rfl
  | cons event rest ih =>
      rw [List.map_cons, List.mem_cons, not_or] at absent
      rw [List.foldl_cons, ih absent.2, Function.update_of_ne absent.1]

theorem eventNames_of_mem (distinct : (events.map Inventory.Event.id).Nodup)
    {event : Inventory.Event} (member : event ∈ events) :
    events.foldl
        (fun names event => Function.update names event.id event.name)
        names event.id =
      event.name := by
  induction events generalizing names with
  | nil => cases member
  | cons head rest ih =>
      rw [List.map_cons, List.nodup_cons] at distinct
      rw [List.foldl_cons]
      rcases List.mem_cons.mp member with rfl | later
      · rw [eventNames_of_not_mem distinct.1, Function.update_self]
      · exact ih distinct.2 later

end Names

section Join

variable {uuid : UuidText} {inventory : Inventory.Db}
  {event : Inventory.EventRow}

theorem eventNames_listEvents
    (distinct : (inventory.events.map Inventory.EventRow.id).Nodup)
    (stored : event ∈ inventory.events) (limit : Int) :
    eventNames (Inventory.listEvents uuid inventory limit)
        (uuid.string event.id) =
      if inventory.rank event ≤ (Inventory.clampEventLimit limit).toNat then
        event.name
      else
        "" := by
  let listed :=
    (inventory.events.mergeSort Inventory.EventRow.newer).take
      (Inventory.clampEventLimit limit).toNat
  have isListed :
      event ∈ listed ↔
        inventory.rank event ≤ (Inventory.clampEventLimit limit).toNat :=
    Inventory.mem_listed_iff distinct stored _
  have ids :
      (Inventory.listEvents uuid inventory limit).map Inventory.Event.id =
        (listed.map Inventory.EventRow.id).map uuid.string := by
    rw [Inventory.listEvents, List.map_map, List.map_map]
    rfl
  have listedDistinct : (listed.map Inventory.EventRow.id).Nodup := by
    have permutation :=
      (List.mergeSort_perm inventory.events Inventory.EventRow.newer).map
        Inventory.EventRow.id
    have sortedDistinct := permutation.nodup_iff.mpr distinct
    exact sortedDistinct.sublist ((List.take_sublist _ _).map _)
  by_cases recent :
      inventory.rank event ≤ (Inventory.clampEventLimit limit).toNat
  · rw [if_pos recent]
    have reported :
        Inventory.scanEvent uuid inventory event ∈
          Inventory.listEvents uuid inventory limit :=
      List.mem_map_of_mem (isListed.mpr recent)
    have idsDistinct :
        ((Inventory.listEvents uuid inventory limit).map
          Inventory.Event.id).Nodup := by
      rw [ids]
      exact listedDistinct.map uuid.string_injective
    exact eventNames_of_mem idsDistinct reported
  · rw [if_neg recent]
    have absent :
        uuid.string event.id ∉
          (Inventory.listEvents uuid inventory limit).map
            Inventory.Event.id := by
      rw [ids]
      intro reported
      obtain ⟨id, isId, same⟩ := List.mem_map.mp reported
      obtain ⟨other, isOther, rfl⟩ := List.mem_map.mp isId
      have otherStored : other ∈ inventory.events :=
        List.mem_mergeSort.mp (List.mem_of_mem_take isOther)
      have isEvent : other = event :=
        row_unique distinct otherStored stored (uuid.string_injective same)
      exact recent (isListed.mp (isEvent ▸ isOther))
    exact eventNames_of_not_mem absent

end Join

section Sales

variable {uuid : UuidText} {inventory : Inventory.Db}
  {analytics : Analytics.Db} {updatedAt : UUID → Nat} {raw : String}

/-- The handler when both services answer. -/
def salesList
    (uuid : UuidText) (inventory : Inventory.Db) (analytics : Analytics.Db)
    (updatedAt : UUID → Nat) (raw : String) : AnalyticsReply :=
  listAnalytics
    (fun limit => .ok (Analytics.listEventStats uuid analytics updatedAt limit))
    (fun limit => .ok (Inventory.listEvents uuid inventory limit)) raw

theorem salesList_of_accepted
    {limit : Int} (accepted : queryLimit raw = .ok limit) :
    salesList uuid inventory analytics updatedAt raw =
      .events 200
        ((Analytics.listEventStats uuid analytics updatedAt limit).map
          (statsView
            (eventNames (Inventory.listEvents uuid inventory 200)))) := by
  simp only [salesList, listAnalytics, accepted]

/-- A row shows the name of its event, unless 200 other events are newer. -/
theorem eventName_of_mem_salesList
    (distinct : (inventory.events.map Inventory.EventRow.id).Nodup)
    {status : Nat} {views : List StatsView}
    (answered :
      salesList uuid inventory analytics updatedAt raw = .events status views)
    {view : StatsView} (shown : view ∈ views)
    {event : Inventory.EventRow} (stored : event ∈ inventory.events)
    (isEvent : view.eventId = uuid.string event.id) :
    view.eventName = if inventory.rank event ≤ 200 then event.name else "" := by
  cases accepted : queryLimit raw with
  | error err =>
      simp only [salesList, listAnalytics, accepted] at answered
      cases answered
  | ok limit =>
      rw [salesList_of_accepted accepted] at answered
      cases answered
      obtain ⟨stats, _, rfl⟩ := List.mem_map.mp shown
      have isStats : stats.eventId = uuid.string event.id := isEvent
      have named :
          eventNames (Inventory.listEvents uuid inventory 200)
              (uuid.string event.id) =
            if inventory.rank event ≤ 200 then event.name else "" :=
        eventNames_listEvents distinct stored 200
      rw [← isStats] at named
      exact named

end Sales

/-- A row of the sales list whose event is in inventory shows its name exactly
if the event is among the newest 200 there, or has no name. -/
theorem sales_list_names_the_newest_events
    {uuid : UuidText} {inventory : Inventory.Db} {analytics : Analytics.Db}
    {updatedAt : UUID → Nat} {raw : String}
    (distinct : (inventory.events.map Inventory.EventRow.id).Nodup)
    {status : Nat} {views : List StatsView}
    (answered :
      salesList uuid inventory analytics updatedAt raw = .events status views) :
    ∀ view ∈ views, ∀ event ∈ inventory.events,
      view.eventId = uuid.string event.id →
        (view.eventName = event.name ↔
          inventory.rank event ≤ 200 ∨ event.name = "") := by
  intro view shown event stored isEvent
  rw [eventName_of_mem_salesList distinct answered shown stored isEvent]
  by_cases recent : inventory.rank event ≤ 200
  · simp [recent]
  · rw [if_neg recent, eq_comm]
    simp only [recent, false_or]

-- Sales of a single event, first when there is another event, then when there
-- are 200 newer ones.
private def salesOf (event : UUID) : Analytics.Db :=
  ⟨[], [⟨event, ⟨3, 1500, 1, 0⟩⟩]⟩

private theorem salesList_salesOf (inventory : Inventory.Db) (event : UUID) :
    ∃ view,
      salesList standardText inventory (salesOf event) (fun _ => 0) "" =
          .events 200 [view] ∧
        view.eventId = standardText.string event := by
  have accepted : queryLimit "" = .ok 0 := rfl
  have listed :
      Analytics.listEventStats standardText (salesOf event) (fun _ => 0) 0 =
        [Analytics.scanStats standardText (fun _ => 0)
          ⟨event, ⟨3, 1500, 1, 0⟩⟩] := by
    simp [Analytics.listEventStats, salesOf, Analytics.clampLimit,
      Analytics.defaultLimit]
  rw [salesList_of_accepted accepted, listed]
  exact ⟨_, rfl, rfl⟩

private def twoEvents : Inventory.Db :=
  ⟨[⟨1, "Opening night", 10⟩, ⟨2, "Second night", 20⟩], [], []⟩

theorem sales_list_names_the_older_of_two_events :
    ∃ view,
      salesList standardText twoEvents (salesOf 1) (fun _ => 0) "" =
          .events 200 [view] ∧
        view.eventName = "Opening night" := by
  obtain ⟨view, answered, isEvent⟩ := salesList_salesOf twoEvents 1
  have recent : twoEvents.rank ⟨1, "Opening night", 10⟩ ≤ 200 := by decide
  have named :=
    sales_list_names_the_newest_events (by decide) answered view
      (List.mem_singleton_self view) _ List.mem_cons_self isEvent
  exact ⟨view, answered, named.mpr (Or.inl recent)⟩

private def manyEvents : Inventory.Db :=
  ⟨(List.range 201).map fun number =>
      ⟨BitVec.ofNat 128 number, "Opening night", number⟩, [], []⟩

private theorem manyEvents_distinct :
    (manyEvents.events.map Inventory.EventRow.id).Nodup := by
  rw [manyEvents, List.map_map]
  refine List.Nodup.map_on ?_ List.nodup_range
  intro left leftSmall right rightSmall same
  rw [List.mem_range] at leftSmall rightSmall
  have numbers := congrArg BitVec.toNat same
  simp only [Function.comp_apply, BitVec.toNat_ofNat] at numbers
  omega

private def oldestEvent : Inventory.EventRow :=
  ⟨0, "Opening night", 0⟩

private theorem rank_oldestEvent : manyEvents.rank oldestEvent = 201 := by
  have all :
      ∀ other ∈ manyEvents.events, other.newer oldestEvent = true := by
    intro other stored
    obtain ⟨number, _, rfl⟩ := List.mem_map.mp stored
    rw [Inventory.EventRow.newer_iff]
    cases number with
    | zero => exact Or.inr ⟨rfl, BitVec.le_refl _⟩
    | succ number => exact Or.inl (Nat.succ_pos number)
  rw [Inventory.Db.rank, List.countP_eq_length.mpr all, manyEvents,
    List.length_map, List.length_range]

theorem oldest_of_201_events_has_no_name :
    ∃ (inventory : Inventory.Db) (analytics : Analytics.Db)
      (view : StatsView) (event : Inventory.EventRow),
      (inventory.events.map Inventory.EventRow.id).Nodup ∧
        salesList standardText inventory analytics (fun _ => 0) "" =
          .events 200 [view] ∧
        event ∈ inventory.events ∧
        view.eventId = standardText.string event.id ∧
        event.name = "Opening night" ∧
        view.eventName = "" := by
  obtain ⟨view, answered, isEvent⟩ := salesList_salesOf manyEvents 0
  have stored : oldestEvent ∈ manyEvents.events :=
    List.mem_map.mpr ⟨0, List.mem_range.mpr (by decide), rfl⟩
  have unnamed : view.eventName = "" := by
    rw [eventName_of_mem_salesList manyEvents_distinct answered
      (List.mem_singleton_self view) stored isEvent, rank_oldestEvent,
      if_neg (by decide)]
  exact
    ⟨manyEvents, salesOf 0, view, oldestEvent, manyEvents_distinct, answered,
      stored, isEvent, rfl, unnamed⟩

end TicketWave.Gateway
