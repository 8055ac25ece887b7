import TicketWave.Checkout.Page
import TicketWave.Library.Sorting
import TicketWave.SeatMap.Page

/-!
# The page of an event

`web/src/pages/EventPage.tsx` around the checkout.  Updates and fetched lists
may contain anything.  `pending` is the mutation that `order` observes;
`toggle` resets `order`, so that the callbacks of `buy` are dropped.
-/

namespace TicketWave.EventPage

open Library TicketWave.Checkout

def maxSeats : Nat := 10

/-- What `useQuery` has: the last data, and whether the last fetch failed. -/
structure Query (Data : Type) where
  data : Option Data
  failed : Bool

/-- The page shows the data, and no error. -/
def Query.good {Data : Type} (query : Query Data) : Bool :=
  query.data.isSome && !query.failed

structure State (uuid : UuidText) where
  site : Site uuid
  eventId : String
  selected : List String
  event : Query Unit
  seats : Query (List SeatMap.SeatView)
  pending : Option Nat
  signedIn : Bool
  /-- the page has not been left for that of an order -/
  mounted : Bool

variable {uuid : UuidText}

def opened (uuid : UuidText) (eventId : String) : State uuid where
  site := Site.empty uuid
  eventId := eventId
  selected := []
  event := ⟨none, false⟩
  seats := ⟨none, false⟩
  pending := none
  signedIn := false
  mounted := true

namespace State

variable (page : State uuid)

/-- The page shows the seats, and neither an error nor that it is loading. -/
def shown : Bool :=
  page.mounted && page.event.good && page.seats.good

def availableIDs : List String :=
  ((page.seats.data.getD []).filter fun seat =>
    decide (seat.status = "available")).map SeatMap.SeatView.id

def chosen : List String :=
  page.selected.filter fun seatID => decide (seatID ∈ page.availableIDs)

/-- The button is there and not disabled. -/
def canBuy : Bool :=
  page.shown && page.signedIn && !page.chosen.isEmpty && page.pending.isNone

def toggle (seatID : String) : State uuid :=
  { page with
    pending := none
    selected :=
      if seatID ∈ page.selected then
        page.selected.filter fun other => decide (other ≠ seatID)
      else if page.selected.length < maxSeats then
        page.selected ++ [seatID]
      else
        page.selected }

def buy (random : String) (token : Option Gateway.Claims) : State uuid :=
  { page with
    site := page.site.buy ⟨page.eventId, page.chosen⟩ random token
    pending := some page.site.mutations.next }

/-- The callbacks of `buy`. -/
def settled : Reaction → State uuid
  | .resolve => { page with pending := none, mounted := false }
  | .reject error =>
      { page with
        pending := none
        selected := if isUnknownOutcome error then page.selected else [] }
  | .refresh _ => page
  | .resend _ => page

def hear (id : Nat) (mutation : Mutation) (reaction : Reaction) : State uuid :=
  let heard := { page with site := page.site.perform id mutation reaction }
  if page.pending = some id then heard.settled reaction else heard

/-- An update of the stream is written to the cache. -/
def update (update : Realtime.Update) : State uuid :=
  match SeatMap.parseUpdate update, page.seats.data with
  | some parsed, some _ =>
      { page with
        seats := ⟨SeatMap.applyUpdate page.seats.data parsed, false⟩ }
  | _, _ => page

end State

/-- A fetch has ended. -/
def Query.fetched {Data : Type} (query : Query Data) :
    Option Data → Query Data
  | some data => ⟨some data, false⟩
  | none => { query with failed := true }

inductive Label where
  /-- requests on their way and the services -/
  | services (label : Checkout.Label)
  | toggle (seatID : String)
  | buy (random : String) (token : Option Gateway.Claims)
  | hear (mutation : Nat) (report : Report)
  | update (update : Realtime.Update)
  | seatsFetched (reply : Option (List SeatMap.SeatView))
  | eventFetched (reply : Option Unit)
  | session (signedIn : Bool)

/-- The label of the checkout is none of the page. -/
def serving : Checkout.Label → Bool
  | .buy _ _ _ => false
  | .hear _ _ => false
  | _ => true

section Step

variable (ours : UUID → Bool) (mine : String → Bool) (price : Int)

def step (page : State uuid) : Label → Option (State uuid)
  | .services label =>
      if serving label then
        (Checkout.step ours mine price page.site label).map fun site =>
          { page with site := site }
      else
        none
  | .toggle seatID =>
      -- the button of a seat that is not available is disabled
      if page.shown ∧ seatID ∈ page.availableIDs then
        some (page.toggle seatID)
      else
        none
  | .buy random token =>
      if page.canBuy ∧ fresh mine page.site.drawn random then
        some (page.buy random token)
      else
        none
  | .hear id report =>
      match page.site.mutations.get id, page.site.reaction id report with
      | some mutation, some reaction => some (page.hear id mutation reaction)
      | _, _ => none
  | .update update => some (page.update update)
  | .seatsFetched reply => some { page with seats := page.seats.fetched reply }
  | .eventFetched reply => some { page with event := page.event.fetched reply }
  | .session signedIn => some { page with signedIn := signedIn }

inductive Transition (page : State uuid) : Label → State uuid → Prop
  | served
      {label : Checkout.Label} {site : Site uuid}
      (isServing : serving label = true)
      (moved : Checkout.step ours mine price page.site label = some site) :
      Transition page (.services label) { page with site := site }
  | toggled (seatID : String) :
      Transition page (.toggle seatID) (page.toggle seatID)
  | bought
      {random : String} {token : Option Gateway.Claims}
      (canBuy : page.canBuy = true) :
      Transition page (.buy random token) (page.buy random token)
  | heard
      {id : Nat} {report : Report} {mutation : Mutation}
      {reaction : Reaction}
      (found : page.site.mutations.get id = some mutation) :
      Transition page (.hear id report) (page.hear id mutation reaction)
  | updated (update : Realtime.Update) :
      Transition page (.update update) (page.update update)
  | seats (reply : Option (List SeatMap.SeatView)) :
      Transition page (.seatsFetched reply)
        { page with seats := page.seats.fetched reply }
  | event (reply : Option Unit) :
      Transition page (.eventFetched reply)
        { page with event := page.event.fetched reply }
  | session (signedIn : Bool) :
      Transition page (.session signedIn) { page with signedIn := signedIn }

end Step

variable {ours : UUID → Bool} {mine : String → Bool} {price : Int}
  {page next : State uuid} {label : Label}

theorem transition_of_step
    (stepped : step ours mine price page label = some next) :
    Transition ours mine price page label next := by
  cases label with
  | services label =>
      simp only [step] at stepped
      split at stepped
      · rename_i isServing
        obtain ⟨site, moved, rfl⟩ := Option.map_eq_some_iff.mp stepped
        exact .served isServing moved
      · cases stepped
  | toggle seatID =>
      simp only [step] at stepped
      split at stepped
      · cases stepped
        exact .toggled seatID
      · cases stepped
  | buy random token =>
      simp only [step] at stepped
      split at stepped
      · rename_i allowed
        cases stepped
        exact .bought allowed.1
      · cases stepped
  | hear id report =>
      simp only [step] at stepped
      split at stepped
      · rename_i mutation reaction found reacts
        cases stepped
        exact .heard found
      · cases stepped
  | update update =>
      cases stepped
      exact .updated update
  | seatsFetched reply =>
      cases stepped
      exact .seats reply
  | eventFetched reply =>
      cases stepped
      exact .event reply
  | session signedIn =>
      cases stepped
      exact .session signedIn

theorem State.update_eq (update : Realtime.Update) :
    ∃ seats, page.update update = { page with seats := seats } ∧
      seats.data.isSome = page.seats.data.isSome := by
  unfold State.update
  split
  · rename_i parsed data _ isData
    refine ⟨_, rfl, ?_⟩
    rw [isData]
    rfl
  · exact ⟨page.seats, rfl, rfl⟩

theorem State.canBuy_iff :
    page.canBuy = true ↔
      page.shown = true ∧ page.signedIn = true ∧ page.chosen ≠ [] ∧
        page.pending = none := by
  simp only [State.canBuy, Bool.and_eq_true, Bool.not_eq_true',
    List.isEmpty_eq_false_iff, Option.isNone_iff_eq_none, and_assoc]

theorem State.shown_iff :
    page.shown = true ↔
      page.mounted = true ∧ page.event.good = true ∧
        page.seats.good = true := by
  simp only [State.shown, Bool.and_eq_true, and_assoc]

/-- The checkout is one of different seats, of this event, and the page has
had seats to show since. -/
structure Sensible (page : State uuid) (mutation : Mutation) : Prop where
  event : mutation.body.eventId = page.eventId
  nonempty : mutation.body.seatIds ≠ []
  distinct : mutation.body.seatIds.Nodup
  loaded : page.seats.data.isSome = true

structure Sane (page : State uuid) : Prop where
  distinct : page.selected.Nodup
  sensible :
    ∀ {id mutation}, page.site.mutations.get id = some mutation →
      Sensible page mutation

theorem sane_opened (eventId : String) : Sane (opened uuid eventId) :=
  ⟨List.nodup_nil, fun found => nomatch found⟩

theorem site_of_serving {site after : Site uuid} {label : Checkout.Label}
    (isServing : serving label = true)
    (stepped : Checkout.step ours mine price site label = some after) :
    after.mutations = site.mutations ∧ after.keeper = site.keeper := by
  cases Checkout.transition_of_step stepped with
  | bought => cases isServing
  | heard => cases isServing
  | _ => exact ⟨rfl, rfl⟩

theorem Sane.of_same (sane : Sane page) (distinct : next.selected.Nodup)
    (same :
      ∀ {id mutation}, next.site.mutations.get id = some mutation →
        ∃ other old, page.site.mutations.get other = some old ∧
          old.body = mutation.body) (sameEvent : next.eventId = page.eventId)
    (loaded : page.seats.data.isSome = true → next.seats.data.isSome = true) :
    Sane next := by
  refine ⟨distinct, ?_⟩
  intro id mutation found
  obtain ⟨_, old, isOld, sameBody⟩ := same found
  have was := sane.sensible isOld
  exact ⟨sameBody ▸ was.event.trans sameEvent.symm, sameBody ▸ was.nonempty,
    sameBody ▸ was.distinct, loaded was.loaded⟩

theorem State.hear_keeps
    (id : Nat) (mutation : Mutation) (reaction : Reaction) :
    (page.hear id mutation reaction).site =
        page.site.perform id mutation reaction ∧
      (page.hear id mutation reaction).eventId = page.eventId ∧
      (page.hear id mutation reaction).seats = page.seats := by
  unfold State.hear
  split
  · cases reaction <;> exact ⟨rfl, rfl, rfl⟩
  · exact ⟨rfl, rfl, rfl⟩

theorem sane_of_hear {id : Nat} {mutation : Mutation} {reaction : Reaction}
    (sane : Sane page) (found : page.site.mutations.get id = some mutation) :
    Sane (page.hear id mutation reaction) := by
  have distinct : (page.hear id mutation reaction).selected.Nodup := by
    unfold State.hear
    split
    · cases reaction with
      | reject error =>
          dsimp only [State.settled]
          split
          · exact sane.distinct
          · exact List.nodup_nil
      | _ => exact sane.distinct
    · exact sane.distinct
  obtain ⟨isSite, sameEvent, sameSeats⟩ :=
    @State.hear_keeps _ page id mutation reaction
  refine sane.of_same distinct ?_ sameEvent (sameSeats ▸ fun has => has)
  intro other current isCurrent
  rw [isSite] at isCurrent
  cases reaction with
  | resolve | reject error =>
      exact ⟨other, current, (Registry.get_of_get_finish isCurrent).2, rfl⟩
  | refresh error | resend token =>
      rcases Registry.cases_of_get_put isCurrent with ⟨_, rfl⟩ | ⟨_, stored⟩
      · exact ⟨id, mutation, found, rfl⟩
      · exact ⟨other, current, stored, rfl⟩

theorem nodup_toggle (distinct : page.selected.Nodup) (seatID : String) :
    (page.toggle seatID).selected.Nodup := by
  unfold State.toggle
  dsimp only
  split
  · exact distinct.filter _
  · split
    · rename_i isNew _
      exact List.nodup_append.mpr
        ⟨distinct, List.nodup_singleton seatID, fun other member added isAdded
          same => isNew (List.mem_singleton.mp isAdded ▸ same ▸ member)⟩
    · exact distinct

theorem sane_of_step (sane : Sane page)
    (stepped : step ours mine price page label = some next) : Sane next := by
  have unchanged {mutations : Registry Mutation}
      (same : mutations = page.site.mutations) :
      ∀ {id mutation}, mutations.get id = some mutation →
        ∃ other old, page.site.mutations.get other = some old ∧
          old.body = mutation.body := by
    intro id mutation found
    exact ⟨id, mutation, same ▸ found, rfl⟩
  cases transition_of_step stepped with
  | served isServing moved =>
      exact sane.of_same sane.distinct
        (unchanged (site_of_serving isServing moved).1) rfl id
  | toggled seatID =>
      exact
        sane.of_same (nodup_toggle sane.distinct seatID) (unchanged rfl) rfl id
  | bought canBuy =>
      obtain ⟨isShown, _, nonempty, _⟩ := State.canBuy_iff.mp canBuy
      refine ⟨sane.distinct, ?_⟩
      intro id mutation found
      rcases Registry.cases_of_get_launch found with ⟨_, rfl⟩ | stored
      · exact ⟨rfl, nonempty, sane.distinct.filter _,
          (Bool.and_eq_true_iff.mp (State.shown_iff.mp isShown).2.2).1⟩
      · have was := sane.sensible stored
        exact ⟨was.event, was.nonempty, was.distinct, was.loaded⟩
  | heard found => exact sane_of_hear sane found
  | updated update =>
      obtain ⟨seats, isNext, sameData⟩ := @State.update_eq _ page update
      rw [isNext]
      exact sane.of_same sane.distinct (unchanged rfl) rfl (sameData ▸ id)
  | seats reply =>
      refine sane.of_same sane.distinct (unchanged rfl) rfl ?_
      cases reply with
      | none => exact id
      | some seats => exact fun _ => rfl
  | event reply | session signedIn =>
      exact sane.of_same sane.distinct (unchanged rfl) rfl id

/-- The label is none of the user's, and no checkout ends with it: the stream
and the fetches, the requests on their way and the services, the session. -/
def Label.passive : Label → Bool
  | .toggle _ => false
  | .buy _ _ => false
  | .hear _ _ => false
  | _ => true

/-- The last label that has a word on it decides. -/
def lastWord (word : Label → Option Bool) (start : Bool) (labels : List Label) :
    Bool :=
  labels.foldl (fun last label => (word label).getD last) start

/-- A fetch of the event succeeds or fails. -/
def Label.onEvent : Label → Option Bool
  | .eventFetched reply => some reply.isSome
  | _ => none

/-- A fetch of the seats succeeds or fails; an update that is written to the
cache ends an error as well. -/
def Label.onSeats : Label → Option Bool
  | .seatsFetched reply => some reply.isSome
  | .update change => (SeatMap.parseUpdate change).map fun _ => true
  | _ => none

def Label.onSession : Label → Option Bool
  | .session signedIn => some signedIn
  | _ => none

/-- The statuses under which the list has the seat. -/
def listed (seatID : String) (seats : List SeatMap.SeatView) : List String :=
  (seats.filter fun seat => decide (seat.id = seatID)).map
    SeatMap.SeatView.status

/-- A new list says where the seat stands, and an update does for a seat of
the list. -/
def Label.onSeat (seatID : String) (was : List String) :
    Label → List String
  | .seatsFetched (some seats) => listed seatID seats
  | .update change =>
      match SeatMap.parseUpdate change with
      | some parsed =>
          if seatID ∈ parsed.seatIds then was.map fun _ => parsed.state
          else was
      | none => was
  | _ => was

def State.standing (page : State uuid) (seatID : String) : List String :=
  listed seatID (page.seats.data.getD [])

theorem mem_availableIDs_iff {seatID : String} :
    seatID ∈ page.availableIDs ↔ "available" ∈ page.standing seatID := by
  simp only [State.availableIDs, State.standing, listed, List.mem_map,
    List.mem_filter, decide_eq_true_eq, and_assoc]
  exact exists_congr fun seat => and_congr_right fun _ => and_comm

theorem listed_applyUpdate (seats : List SeatMap.SeatView)
    (update : Realtime.Update) (seatID : String) :
    listed seatID ((SeatMap.applyUpdate (some seats) update).getD []) =
      if seatID ∈ update.seatIds then
        (listed seatID seats).map fun _ => update.state
      else listed seatID seats := by
  rw [SeatMap.applyUpdate, Option.map_some, Option.getD_some]
  unfold listed
  induction seats with
  | nil => simp
  | cons seat rest ih =>
      rw [List.map_cons, List.filter_cons, List.filter_cons]
      by_cases isSeat : seat.id = seatID
      · cases isSeat
        by_cases isMeant : seat.id ∈ update.seatIds
        · rw [if_pos isMeant] at ih ⊢
          by_cases isNew : seat.status = update.state
          · simp [isNew, ih]
          · simp [isMeant, isNew, ih]
        · rw [if_neg isMeant] at ih ⊢
          simp [isMeant, ih]
      · have keepsId :
            (if seat.id ∈ update.seatIds ∧ seat.status ≠ update.state then
              { seat with status := update.state }
            else seat).id = seat.id := by
          split <;> rfl
        have isOther : ¬ decide (seat.id = seatID) = true :=
          fun same => isSeat (of_decide_eq_true same)
        rw [keepsId, if_neg isOther, if_neg isOther]
        exact ih

/-- What the stream and the fetches leave as it is. -/
structure Kept (page next : State uuid) : Prop where
  selected : next.selected = page.selected
  eventId : next.eventId = page.eventId
  pending : next.pending = page.pending
  mounted : next.mounted = page.mounted
  keeper : next.site.keeper = page.site.keeper

/-- What they change is what they say. -/
structure Follows (page next : State uuid) (labels : List Label) : Prop where
  kept : Kept page next
  loaded : next.seats.data.isSome = true
  event : next.event.good = lastWord Label.onEvent page.event.good labels
  seats : next.seats.good = lastWord Label.onSeats page.seats.good labels
  session : next.signedIn = lastWord Label.onSession page.signedIn labels
  standing :
    ∀ seatID,
      next.standing seatID =
        labels.foldl (Label.onSeat seatID) (page.standing seatID)

theorem follows_of_passive (loaded : page.seats.data.isSome = true)
    (isPassive : label.passive = true)
    (stepped : step ours mine price page label = some next) :
    Follows page next [label] := by
  cases transition_of_step stepped with
  | served isServing moved =>
      exact ⟨⟨rfl, rfl, rfl, rfl, (site_of_serving isServing moved).2⟩, loaded,
        rfl, rfl, rfl, fun _ => rfl⟩
  | toggled seatID => cases isPassive
  | bought canBuy => cases isPassive
  | heard found => cases isPassive
  | updated update =>
      obtain ⟨data, isData⟩ := Option.isSome_iff_exists.mp loaded
      cases isParsed : SeatMap.parseUpdate update with
      | none =>
          have same : page.update update = page := by
            rw [State.update, isParsed]
          rw [same]
          refine ⟨⟨rfl, rfl, rfl, rfl, rfl⟩, loaded, rfl, ?_, rfl, ?_⟩
          · simp [lastWord, Label.onSeats, isParsed]
          · simp [Label.onSeat, isParsed]
      | some parsed =>
          have isNext :
              page.update update =
                { page with
                  seats :=
                    ⟨SeatMap.applyUpdate (some data) parsed, false⟩ } := by
            rw [State.update, isParsed, isData]
          rw [isNext]
          refine ⟨⟨rfl, rfl, rfl, rfl, rfl⟩, rfl, rfl, ?_, rfl, ?_⟩
          · simp [lastWord, Label.onSeats, isParsed, Query.good,
              SeatMap.applyUpdate]
          · intro seatID
            have before : page.standing seatID = listed seatID data := by
              rw [State.standing, isData, Option.getD_some]
            rw [List.foldl_cons, List.foldl_nil, Label.onSeat, isParsed, before]
            exact listed_applyUpdate data parsed seatID
  | seats reply =>
      cases reply with
      | none =>
          exact ⟨⟨rfl, rfl, rfl, rfl, rfl⟩, loaded, rfl,
            by simp [lastWord, Label.onSeats, Query.good, Query.fetched],
            rfl, fun _ => rfl⟩
      | some seats =>
          exact ⟨⟨rfl, rfl, rfl, rfl, rfl⟩, rfl, rfl, rfl, rfl, fun _ => rfl⟩
  | event reply =>
      refine ⟨⟨rfl, rfl, rfl, rfl, rfl⟩, loaded, ?_, rfl, rfl, fun _ => rfl⟩
      cases reply with
      | none => simp [lastWord, Label.onEvent, Query.good, Query.fetched]
      | some event => rfl
  | session signedIn =>
      exact ⟨⟨rfl, rfl, rfl, rfl, rfl⟩, loaded, rfl, rfl, rfl, fun _ => rfl⟩

theorem follows_of_run
    {labels : List Label} (loaded : page.seats.data.isSome = true)
    (passive : ∀ label ∈ labels, label.passive = true)
    (ran : run (step ours mine price) page labels = some next) :
    Follows page next labels := by
  induction labels generalizing page with
  | nil =>
      cases ran
      exact ⟨⟨rfl, rfl, rfl, rfl, rfl⟩, loaded, rfl, rfl, rfl, fun _ => rfl⟩
  | cons label rest ih =>
      obtain ⟨middle, stepped, ranRest⟩ := run_cons_eq_some_iff.mp ran
      obtain ⟨isPassive, restPassive⟩ := List.forall_mem_cons.mp passive
      have first := follows_of_passive loaded isPassive stepped
      have later := ih first.loaded restPassive ranRest
      refine ⟨⟨later.kept.selected.trans first.kept.selected,
          later.kept.eventId.trans first.kept.eventId,
          later.kept.pending.trans first.kept.pending,
          later.kept.mounted.trans first.kept.mounted,
          later.kept.keeper.trans first.kept.keeper⟩,
        later.loaded, ?_, ?_, ?_, ?_⟩
      · rw [later.event, first.event]
        rfl
      · rw [later.seats, first.seats]
        rfl
      · rw [later.session, first.session]
        rfl
      · intro seatID
        rw [later.standing, first.standing]
        rfl

/-- The button can be pressed, and the press sends the same seats with the
same key, in whatever order. -/
def RepeatsPurchase (page : State uuid) (mutation : Mutation) : Prop :=
  page.canBuy = true ∧
    ∀ random token,
      ∃ body,
        (page.buy random token).site.requests.get page.site.requests.next =
            some ⟨body, mutation.key, token, .sent, none⟩ ∧
          body.eventId = mutation.body.eventId ∧
          body.seatIds.Perm mutation.body.seatIds

theorem keyFor_eq_iff {keeper : KeyKeeper} {seatIds : List String}
    {key : String} :
    (∀ random, (keeper.keyFor seatIds random).key = key) ↔
      keeper.current = some ⟨KeyKeeper.sortedSeats seatIds, key⟩ := by
  have neverRandom : ¬ ∀ random : String, random = key := by
    intro always
    exact absurd ((always "").trans (always "key").symm) (by decide)
  obtain ⟨current⟩ := keeper
  cases current with
  | none => exact iff_of_false neverRandom nofun
  | some pending =>
      obtain ⟨seats, pendingKey⟩ := pending
      by_cases isSame : seats = KeyKeeper.sortedSeats seatIds
      · cases isSame
        simp [KeyKeeper.keyFor]
      · refine iff_of_false ?_ ?_
        · intro always
          apply neverRandom
          intro random
          have drawn := always random
          rw [KeyKeeper.keyFor] at drawn
          simpa [isSame] using drawn
        · intro same
          cases same
          exact isSame rfl

theorem repeatsPurchase_iff {mutation : Mutation} :
    RepeatsPurchase page mutation ↔
      page.canBuy = true ∧ page.eventId = mutation.body.eventId ∧
        page.chosen.Perm mutation.body.seatIds ∧
        page.site.keeper.current =
          some ⟨KeyKeeper.sortedSeats page.chosen, mutation.key⟩ := by
  have sends (random : String) (token : Option Gateway.Claims) :
      (page.buy random token).site.requests.get page.site.requests.next =
        some
          ⟨⟨page.eventId, page.chosen⟩,
            (page.site.keeper.keyFor page.chosen random).key, token, .sent,
            none⟩ :=
    Registry.get_launch_self _ _
  rw [← keyFor_eq_iff]
  refine and_congr_right fun _ => ⟨?_, ?_⟩
  · intro repeated
    have each (random : String) :
        page.eventId = mutation.body.eventId ∧
          page.chosen.Perm mutation.body.seatIds ∧
          (page.site.keeper.keyFor page.chosen random).key = mutation.key := by
      obtain ⟨body, isSent, sameEvent, perm⟩ := repeated random none
      rw [sends random none, Option.some_inj, Request.mk.injEq] at isSent
      obtain ⟨rfl, sameKey, _⟩ := isSent
      exact ⟨sameEvent, perm, sameKey⟩
    exact ⟨(each "").1, (each "").2.1, fun random => (each random).2.2⟩
  · rintro ⟨sameEvent, perm, sameKey⟩ random token
    refine ⟨⟨page.eventId, page.chosen⟩, ?_, sameEvent, perm⟩
    rw [sends, sameKey]

theorem sortedSeats_of_perm {left right : List String}
    (perm : left.Perm right) :
    KeyKeeper.sortedSeats left = KeyKeeper.sortedSeats right := by
  rw [KeyKeeper.sortedSeats, insertionSort_eq_iff_perm.mpr perm]
  rfl

theorem perm_chosen_iff {seatIds : List String}
    (distinct : page.selected.Nodup) (isSet : seatIds.Nodup) :
    page.chosen.Perm seatIds ↔
      (∀ seatID ∈ seatIds, seatID ∈ page.selected) ∧
        ∀ seatID ∈ page.selected,
          "available" ∈ page.standing seatID ↔ seatID ∈ seatIds := by
  have mem_chosen (seatID : String) :
      seatID ∈ page.chosen ↔
        seatID ∈ page.selected ∧ "available" ∈ page.standing seatID := by
    rw [State.chosen, List.mem_filter, decide_eq_true_eq, mem_availableIDs_iff]
  have chosenDistinct : page.chosen.Nodup := distinct.filter _
  rw [List.perm_ext_iff_of_nodup chosenDistinct isSet]
  constructor
  · intro same
    refine ⟨?_, ?_⟩
    · intro seatID isBought
      exact ((mem_chosen seatID).mp ((same seatID).mpr isBought)).1
    · intro seatID isSelected
      rw [← same seatID]
      exact ⟨fun available => (mem_chosen seatID).mpr ⟨isSelected, available⟩,
        fun chosen => ((mem_chosen seatID).mp chosen).2⟩
  · rintro ⟨selected, offered⟩ seatID
    refine ⟨fun chosen => ?_, fun isBought => ?_⟩
    · obtain ⟨isSelected, available⟩ := (mem_chosen seatID).mp chosen
      exact (offered seatID isSelected).mp available
    · have isSelected := selected seatID isBought
      exact (mem_chosen seatID).mpr
        ⟨isSelected, (offered seatID isSelected).mpr isBought⟩

theorem hear_of_unknown {id : Nat} {mutation : Mutation} {error : Thrown}
    (isUnknown : isUnknownOutcome error = true)
    (isNext : page.hear id mutation (.reject error) = next) :
    next.selected = page.selected ∧ next.site.keeper = page.site.keeper ∧
      next.mounted = page.mounted ∧ next.event = page.event ∧
      next.signedIn = page.signedIn ∧
      (next.pending = none ↔ page.pending = none ∨ page.pending = some id) := by
  have keeps :
      (page.site.perform id mutation (.reject error)).keeper =
        page.site.keeper := by
    change page.site.keeper.settle (some error) = page.site.keeper
    rw [KeyKeeper.settle, if_pos isUnknown]
  subst isNext
  unfold State.hear
  split
  · rename_i isWatched
    exact ⟨if_pos isUnknown, keeps, rfl, rfl, rfl,
      iff_of_true rfl (Or.inr isWatched)⟩
  · rename_i isOther
    exact ⟨rfl, keeps, rfl, rfl, rfl, (or_iff_left isOther).symm⟩

/-- What it takes for a checkout that ends without an answer, and what is
said after it: the keeper still has its key and the page is there, with no
other checkout at work; the last fetches of the event and of the seats have
not failed and the user is signed in; and of the selected seats those of the
checkout, and no others, were last said to be available. -/
structure Favoured
    (page : State uuid) (id : Nat) (after : List Label)
    (mutation : Mutation) : Prop where
  keeper :
    page.site.keeper.current =
      some ⟨KeyKeeper.sortedSeats mutation.body.seatIds, mutation.key⟩
  mounted : page.mounted = true
  alone : page.pending = none ∨ page.pending = some id
  event : lastWord Label.onEvent page.event.good after = true
  seats : lastWord Label.onSeats page.seats.good after = true
  session : lastWord Label.onSession page.signedIn after = true
  selected : ∀ seatID ∈ mutation.body.seatIds, seatID ∈ page.selected
  offered :
    ∀ seatID ∈ page.selected,
      "available" ∈
          after.foldl (Label.onSeat seatID) (page.standing seatID) ↔
        seatID ∈ mutation.body.seatIds

/-- After a checkout that ended without an answer, whatever the stream, the
fetches and the services do: a press of the button repeats the purchase
exactly if what they say favours it. -/
theorem pressing_buy_again_repeats_the_purchase {eventId : String}
    {before after : List Label} {page settled last : State uuid} {id : Nat}
    {report : Report} {mutation : Mutation} {error : Thrown}
    (ran : run (step ours mine price) (opened uuid eventId) before = some page)
    (found : page.site.mutations.get id = some mutation)
    (rejects : page.site.reaction id report = some (.reject error))
    (isUnknown : isUnknownOutcome error = true)
    (ended : step ours mine price page (.hear id report) = some settled)
    (passive : ∀ label ∈ after, label.passive = true)
    (ranAfter : run (step ours mine price) settled after = some last) :
    RepeatsPurchase last mutation ↔ Favoured page id after mutation := by
  have sane : Sane page :=
    invariant_of_run (fun sane stepped => sane_of_step sane stepped)
      (sane_opened eventId) ran
  have sensible := sane.sensible found
  have isSettled :
      page.hear id mutation (.reject error) = settled := by
    rw [step, found, rejects] at ended
    exact Option.some.inj ended
  obtain ⟨_, sameEvent, sameSeats⟩ :=
    @State.hear_keeps _ page id mutation (.reject error)
  rw [isSettled] at sameEvent sameSeats
  obtain ⟨selected, keeper, mounted, event, signedIn, pending_iff⟩ :=
    hear_of_unknown isUnknown isSettled
  have follows := follows_of_run (sameSeats ▸ sensible.loaded) passive ranAfter
  have isSelected := follows.kept.selected.trans selected
  have isEvent : last.eventId = mutation.body.eventId :=
    (follows.kept.eventId.trans sameEvent).trans sensible.event.symm
  have sameStanding (seatID : String) :
      settled.standing seatID = page.standing seatID := by
    rw [State.standing, sameSeats, State.standing]
  have chosen_iff :=
    perm_chosen_iff (isSelected ▸ sane.distinct) sensible.distinct
  simp only [isSelected, follows.standing, sameStanding] at chosen_iff
  rw [repeatsPurchase_iff, State.canBuy_iff, State.shown_iff, follows.event,
    follows.seats, follows.session, follows.kept.pending,
    follows.kept.mounted, follows.kept.keeper, sameSeats, keeper, mounted,
    event, signedIn, pending_iff]
  constructor
  · rintro ⟨⟨⟨mounted, event, seats⟩, session, _, alone⟩, _, perm, key⟩
    obtain ⟨selected, offered⟩ := chosen_iff.mp perm
    refine ⟨?_, mounted, alone, event, seats, session, selected, offered⟩
    rw [key, sortedSeats_of_perm perm]
  · intro favoured
    have perm := chosen_iff.mpr ⟨favoured.selected, favoured.offered⟩
    have nonempty : last.chosen ≠ [] := by
      intro isEmpty
      rw [isEmpty] at perm
      exact sensible.nonempty perm.nil_eq.symm
    refine ⟨⟨⟨favoured.mounted, favoured.event, favoured.seats⟩,
        favoured.session, nonempty, favoured.alone⟩,
      isEvent, perm, ?_⟩
    rw [favoured.keeper, sortedSeats_of_perm perm]

-- A checkout of seats 3 and 4 whose answer is lost.
private def seatList : List SeatMap.SeatView :=
  [⟨standardString 3, "Seat 1", "available"⟩,
    ⟨standardString 4, "Seat 2", "available"⟩]

private def shopper : Gateway.Claims :=
  ⟨standardString 1, "user"⟩

private def pageStep :
    State standardText → Label → Option (State standardText) :=
  step (fun id => decide (id = 9)) (fun key => decide (key ≠ "")) 700

private def shoppingLabels : List Label :=
  [.services (.system (.inventory (.createEvent ⟨"Concert", 2⟩ 2 [3, 4]))),
    .eventFetched (some ()), .seatsFetched (some seatList), .session true,
    .toggle (standardString 3), .toggle (standardString 4),
    .buy "key-1" (some shopper), .services (.arrive 0 none)]

private def placedLabels : List Label :=
  [.services (.take 0 9), .services (.system (.order (.database 0 .done 20 0))),
    .services (.system (.send 0)),
    .services (.system (.inventory (.commitCall 0 30)))]

/-- Where a run of the page ends. -/
private def pageAfter (labels : List Label) : Option (State standardText) :=
  run pageStep (opened standardText (standardString 2)) labels

/-- A seat is held for a while, a fetch fails and the next one succeeds. -/
private def freedLabels : List Label :=
  [.update ⟨[standardString 3], "held"⟩, .seatsFetched none,
    .seatsFetched (some seatList)]

private def heldLabels : List Label :=
  [.update ⟨[standardString 3], "held"⟩]

theorem pressing_buy_again_repeats_the_purchase_of_free_seats :
    ∃ page settled freed held : State standardText, ∃ mutation,
      pageAfter shoppingLabels = some page ∧
        page.site.mutations.get 0 = some mutation ∧
        mutation.key = "key-1" ∧
        pageStep page (.hear 0 .lost) = some settled ∧
        run pageStep settled freedLabels = some freed ∧
        RepeatsPurchase freed mutation ∧
        run pageStep settled heldLabels = some held ∧
        ¬ RepeatsPurchase held mutation := by
  have evaluated :
      ((pageAfter shoppingLabels).any fun page =>
        (page.site.mutations.get 0).any fun mutation =>
          decide
              (page.site.reaction 0 .lost =
                  some (.reject (.api Web.networkError)) ∧
                mutation.key = "key-1" ∧
                page.site.keeper.current =
                  some
                    ⟨KeyKeeper.sortedSeats mutation.body.seatIds,
                      mutation.key⟩ ∧
                page.mounted = true ∧ page.pending = some 0 ∧
                lastWord Label.onEvent page.event.good freedLabels = true ∧
                lastWord Label.onSeats page.seats.good freedLabels = true ∧
                lastWord Label.onSession page.signedIn freedLabels = true ∧
                page.selected = mutation.body.seatIds ∧
                (∀ seatID ∈ page.selected,
                  "available" ∈
                    freedLabels.foldl (Label.onSeat seatID)
                      (page.standing seatID)) ∧
                standardString 3 ∈ page.selected ∧
                "available" ∉
                  heldLabels.foldl (Label.onSeat (standardString 3))
                    (page.standing (standardString 3))) &&
            (pageStep page (.hear 0 .lost)).any fun settled =>
              (run pageStep settled freedLabels).isSome &&
                (run pageStep settled heldLabels).isSome) = true := by
    decide +kernel
  obtain ⟨page, ran, facts⟩ := (Option.any_eq_true _ _).mp evaluated
  obtain ⟨mutation, found, holds⟩ := (Option.any_eq_true _ _).mp facts
  obtain ⟨isFavoured, ends⟩ := Bool.and_eq_true_iff.mp holds
  obtain ⟨settled, ended, later⟩ := (Option.any_eq_true _ _).mp ends
  obtain ⟨isFreed, isHeld⟩ := Bool.and_eq_true_iff.mp later
  obtain ⟨freed, ranFreed⟩ := Option.isSome_iff_exists.mp isFreed
  obtain ⟨held, ranHeld⟩ := Option.isSome_iff_exists.mp isHeld
  obtain
    ⟨rejects, isKey, keeper, mounted, pending, event, seats, session, same,
      offered, isSelected, taken⟩ := of_decide_eq_true isFavoured
  have repeats :=
    (pressing_buy_again_repeats_the_purchase ran found rejects (by decide)
      ended (by decide) ranFreed).mpr
      ⟨keeper, mounted, .inr pending, event, seats, session,
        fun seatID member => same ▸ member,
        fun seatID member =>
          iff_of_true (offered seatID member) (same ▸ member)⟩
  have changes : ¬ RepeatsPurchase held mutation := by
    intro repeated
    have favoured :=
      (pressing_buy_again_repeats_the_purchase ran found rejects (by decide)
        ended (by decide) ranHeld).mp repeated
    exact taken ((favoured.offered _ isSelected).mpr (same ▸ isSelected))
  exact
    ⟨page, settled, freed, held, mutation, ran, found, isKey, ended, ranFreed,
      repeats, ranHeld, changes⟩

/-- The order has been placed, the stream tells that its seats are held, and
the button is disabled.  And: somebody else gets one of the seats, and the
button buys the other one under another key. -/
theorem unanswered_purchase_is_not_repeated :
    (∃ page,
      pageAfter
          (shoppingLabels ++ placedLabels ++
            [.hear 0 .lost,
              .update ⟨[standardString 3, standardString 4], "held"⟩]) =
        some page ∧
      (∀ seat ∈ page.site.system.inventory.db.seats,
        seat.status = .held ∧ seat.heldBy = some 9) ∧
      page.selected = [standardString 3, standardString 4] ∧
      page.canBuy = false) ∧
    ∃ page,
      pageAfter
          (shoppingLabels ++
            [.hear 0 .lost, .update ⟨[standardString 3], "held"⟩,
              .buy "key-2" (some shopper)]) =
        some page ∧
      page.site.requests.get 1 =
        some
          ⟨⟨standardString 2, [standardString 4]⟩, "key-2", some shopper,
            .sent, none⟩ := by
  have placed :
      ((pageAfter
          (shoppingLabels ++ placedLabels ++
            [.hear 0 .lost,
              .update ⟨[standardString 3, standardString 4], "held"⟩])).any
        fun page =>
          decide
            ((∀ seat ∈ page.site.system.inventory.db.seats,
                seat.status = .held ∧ seat.heldBy = some 9) ∧
              page.selected = [standardString 3, standardString 4] ∧
              page.canBuy = false)) = true := by
    decide +kernel
  have taken :
      ((pageAfter
          (shoppingLabels ++
            [.hear 0 .lost, .update ⟨[standardString 3], "held"⟩,
              .buy "key-2" (some shopper)])).any
        fun page =>
          decide
            (page.site.requests.get 1 =
              some
                ⟨⟨standardString 2, [standardString 4]⟩, "key-2",
                  some shopper, .sent, none⟩)) = true := by
    decide +kernel
  obtain ⟨page, ran, facts⟩ := (Option.any_eq_true _ _).mp placed
  obtain ⟨other, ranOther, sent⟩ := (Option.any_eq_true _ _).mp taken
  exact ⟨⟨page, ran, of_decide_eq_true facts⟩,
    other, ranOther, of_decide_eq_true sent⟩

end TicketWave.EventPage
