import TicketWave.Library.Heap
import TicketWave.Library.Queue
import TicketWave.SeatMap.Page

/-!
# The objects of the seat map

`applyUpdate` of `web/src/lib/seats.ts` on arrays of references to seats; a
reference to nothing is a `none`.
-/

namespace TicketWave.SeatMap

open Library

structure Heap where
  seats : Registry SeatView
  lists : Registry (List Nat)

/-- The seats of a list, in order. -/
def Heap.read (heap : Heap) (list : Nat) : Option (List SeatView) :=
  (heap.lists.get list).bind heap.seats.getAll

/-- `seats.map`, with the objects that its callback makes. -/
def mapSeats (update : Realtime.Update) :
    Registry SeatView → List Nat → Option (Registry SeatView × List Nat)
  | objects, [] => some (objects, [])
  | objects, ref :: rest =>
      match objects.get ref with
      | none => none
      | some seat =>
          if seat.id ∈ update.seatIds ∧ seat.status ≠ update.state then
            (mapSeats update
                (objects.launch { seat with status := update.state })
                rest).map
              fun mapped => (mapped.1, objects.next :: mapped.2)
          else
            (mapSeats update objects rest).map
              fun mapped => (mapped.1, ref :: mapped.2)

def Heap.applyUpdate (heap : Heap) (seats : Option Nat)
    (update : Realtime.Update) : Option (Heap × Option Nat) :=
  match seats with
  | none => some (heap, none)
  | some list =>
      match heap.lists.get list with
      | none => none
      | some refs =>
          match mapSeats update heap.seats refs with
          | none => none
          | some (objects, next) =>
              -- the new array is there even if nobody gets to see it
              some
                (⟨objects, heap.lists.launch next⟩,
                  if (next.zip refs).any
                      fun pair => decide (pair.1 ≠ pair.2) then
                    some heap.lists.next
                  else
                    some list)

/-- One update after the other. -/
def Heap.applyAll (heap : Heap) (seats : Option Nat)
    (updates : List Realtime.Update) : Option (Heap × Option Nat) :=
  updates.foldlM
    (fun state update => Heap.applyUpdate state.1 state.2 update)
    (heap, seats)

/-- What an update makes of a seat. -/
def touched (update : Realtime.Update) (seat : SeatView) : SeatView :=
  if seat.id ∈ update.seatIds ∧ seat.status ≠ update.state then
    { seat with status := update.state }
  else
    seat

theorem applyUpdate_some (seats : List SeatView) (update : Realtime.Update) :
    applyUpdate (some seats) update = some (seats.map (touched update)) :=
  rfl

theorem touched_eq (update : Realtime.Update) (seat : SeatView) :
    touched update seat =
      { seat with
        status :=
          if seat.id ∈ update.seatIds then update.state else seat.status } := by
  unfold touched
  by_cases named : seat.id ∈ update.seatIds
  · by_cases different : seat.status ≠ update.state
    · rw [if_pos ⟨named, different⟩, if_pos named]
    · rw [if_neg fun both => different both.2, if_pos named,
        ← Decidable.not_not.mp different]
  · rw [if_neg fun both => named both.1, if_neg named]

theorem touched_eq_self_iff {update : Realtime.Update} {seat : SeatView} :
    touched update seat = seat ↔
      (touched update seat).status = seat.status := by
  constructor
  · intro same
    rw [same]
  · intro same
    rw [touched_eq] at same ⊢
    exact congrArg (fun status => { seat with status := status }) same

theorem map_status_touched_iff
    {update : Realtime.Update} {seats : List SeatView} :
    (seats.map (touched update)).map SeatView.status =
        seats.map SeatView.status ↔
      seats.map (touched update) = seats := by
  have self :
      seats.map (touched update) = seats ↔
        ∀ seat ∈ seats, touched update seat = seat := by
    nth_rewrite 2 [← List.map_id seats]
    exact List.map_inj_left
  rw [self, List.map_map, List.map_inj_left]
  constructor
  · intro same seat member
    exact touched_eq_self_iff.mpr (same seat member)
  · intro same seat member
    exact touched_eq_self_iff.mp (same seat member)

theorem touched_twice (update : Realtime.Update) (seat : SeatView) :
    touched update (touched update seat) = touched update seat := by
  rw [touched_eq update (touched update seat), touched_eq update seat]
  split <;> rfl

theorem touched_comm {first second : Realtime.Update}
    (disjoint : ∀ id ∈ first.seatIds, id ∉ second.seatIds) (seat : SeatView) :
    touched second (touched first seat) =
      touched first (touched second seat) := by
  simp only [touched_eq]
  by_cases named : seat.id ∈ first.seatIds
  · rw [if_pos named, if_neg (disjoint seat.id named), if_pos named]
  · rw [if_neg named, if_neg named]

/-- The state that the last of the updates gives to the seat, if any of them
names it. -/
def lastState (updates : List Realtime.Update) (id : String) : Option String :=
  lastValue (fun update => decide (id ∈ update.seatIds))
    Realtime.Update.state updates

theorem foldl_touched (updates : List Realtime.Update) (seat : SeatView) :
    updates.foldl (fun current update => touched update current) seat =
      { seat with
        status := (lastState updates seat.id).getD seat.status } := by
  induction updates generalizing seat with
  | nil => rfl
  | cons update rest ih =>
      have split :
          lastState (update :: rest) seat.id =
            (lastState rest seat.id).or
              (if seat.id ∈ update.seatIds then some update.state
                else none) := by
        rw [lastState, ← List.singleton_append, lastValue_append]
        congr 1
        unfold lastValue
        by_cases named : seat.id ∈ update.seatIds
        · simp [named]
        · simp [named]
      rw [List.foldl_cons, ih, split, touched_eq]
      cases lastState rest seat.id with
      | some state => rfl
      | none =>
          by_cases named : seat.id ∈ update.seatIds
          · simp [named]
          · simp [named]

/-- What `map` has made of the seats: `objects` and `refs` are what it found,
`after` and `next` what it leaves. -/
structure Mapped
    (update : Realtime.Update) (objects : Registry SeatView)
    (refs : List Nat) (seats : List SeatView) (after : Registry SeatView)
    (next : List Nat) : Prop where
  kept : objects.Keeps after
  read : after.getAll next = some (seats.map (touched update))
  length : next.length = refs.length
  places :
    ∀ (place ref new : Nat) (seat : SeatView),
      refs[place]? = some ref → next[place]? = some new →
        seats[place]? = some seat → (new = ref ↔ touched update seat = seat)

section Map

variable {update : Realtime.Update} {objects after : Registry SeatView}
  {ref : Nat} {refs next : List Nat} {seat : SeatView}
  {seats : List SeatView}

theorem Mapped.cons {first : Registry SeatView} {new : Nat}
    (mapped : Mapped update first refs seats after next)
    (kept : objects.Keeps first)
    (made : first.get new = some (touched update seat))
    (same : new = ref ↔ touched update seat = seat) :
    Mapped update objects (ref :: refs) (seat :: seats) after
      (new :: next) where
  kept := kept.trans mapped.kept
  read :=
    Registry.getAll_cons_eq_some_iff.mpr
      ⟨_, _, mapped.kept _ _ made, mapped.read, rfl⟩
  length := congrArg Nat.succ mapped.length
  places := by
    intro place ref' new' seat' isRef isNew isSeat
    cases place with
    | zero =>
        cases isRef
        cases isNew
        cases isSeat
        exact same
    | succ place => exact mapped.places place ref' new' seat' isRef isNew isSeat

theorem mapSeats_spec (update : Realtime.Update)
    (read : objects.getAll refs = some seats) :
    ∃ after next, mapSeats update objects refs = some (after, next) ∧
      Mapped update objects refs seats after next := by
  induction refs generalizing objects seats with
  | nil =>
      cases read
      refine ⟨objects, [], rfl, Registry.Keeps.refl objects, rfl, rfl, ?_⟩
      intro place ref new seat isRef
      cases isRef
  | cons ref rest ih =>
      obtain ⟨seat, others, found, readRest, rfl⟩ :=
        Registry.getAll_cons_eq_some_iff.mp read
      by_cases changes : seat.id ∈ update.seatIds ∧ seat.status ≠ update.state
      · have isTouched :
            touched update seat = { seat with status := update.state } :=
          if_pos changes
        have keeps :
            objects.Keeps
              (objects.launch { seat with status := update.state }) :=
          (Registry.Keeps.refl objects).launch _
        obtain ⟨after, next, ran, mapped⟩ := ih (keeps.getAll readRest)
        refine ⟨after, objects.next :: next, ?_, mapped.cons keeps ?_ ?_⟩
        · rw [mapSeats, found]
          simp only
          rw [if_pos changes, ran]
          rfl
        · rw [isTouched]
          exact Registry.get_launch_self _ _
        · -- an old reference is below the counter
          have old := Registry.lt_next_of_get found
          constructor
          · intro same
            omega
          · intro same
            rw [isTouched] at same
            exact absurd (congrArg SeatView.status same).symm changes.2
      · have isTouched : touched update seat = seat := if_neg changes
        obtain ⟨after, next, ran, mapped⟩ := ih readRest
        refine ⟨after, ref :: next, ?_,
          mapped.cons (Registry.Keeps.refl objects) ?_ ?_⟩
        · rw [mapSeats, found]
          simp only
          rw [if_neg changes, ran]
          rfl
        · rw [isTouched]
          exact found
        · exact ⟨fun _ => isTouched, fun _ => rfl⟩

theorem Mapped.next_eq_iff
    (mapped : Mapped update objects refs seats after next)
    (read : objects.getAll refs = some seats) :
    next = refs ↔ seats.map (touched update) = seats := by
  constructor
  · intro same
    have now := mapped.read
    rw [same, mapped.kept.getAll read] at now
    exact (Option.some.inj now).symm
  · intro unchanged
    apply List.ext_getElem mapped.length
    intro place inNext inRefs
    have inSeats : place < seats.length := by
      rw [Registry.length_of_getAll read]
      exact inRefs
    apply (mapped.places place refs[place] next[place] seats[place]
      (List.getElem?_eq_getElem inRefs) (List.getElem?_eq_getElem inNext)
      (List.getElem?_eq_getElem inSeats)).mpr
    have here := congrArg (fun list => list[place]?) unchanged
    simpa [inSeats] using here

/-- `next.some((seat, i) => seat !== seats[i])` -/
theorem any_ne_eq_false_iff (same : next.length = refs.length) :
    ((next.zip refs).any fun pair => decide (pair.1 ≠ pair.2)) = false ↔
      next = refs := by
  rw [← List.forall₂_eq_eq_eq, List.forall₂_iff_zip, List.any_eq_false]
  constructor
  · intro equal
    refine ⟨same, ?_⟩
    intro new ref member
    simpa using equal (new, ref) member
  · rintro ⟨_, equal⟩ ⟨new, ref⟩ member
    simpa using equal member

end Map

/-- What one application does: `heap` and `list` go in, `after` and `result`
come out. -/
structure Applied
    (update : Realtime.Update) (heap : Heap) (list : Nat)
    (refs : List Nat) (seats : List SeatView) (after : Heap) (result : Nat) :
    Prop where
  keptSeats : heap.seats.Keeps after.seats
  keptLists : heap.lists.Keeps after.lists
  read : after.read result = some (seats.map (touched update))
  same : result = list ↔ seats.map (touched update) = seats
  places :
    ∃ next, after.lists.get result = some next ∧
      next.length = refs.length ∧
      ∀ (place ref new : Nat) (seat : SeatView),
        refs[place]? = some ref → next[place]? = some new →
          seats[place]? = some seat → (new = ref ↔ touched update seat = seat)

section Apply

variable {heap : Heap} {list : Nat} {refs : List Nat}
  {seats : List SeatView}

theorem read_eq_some_iff :
    heap.read list = some seats ↔
      ∃ refs, heap.lists.get list = some refs ∧
        heap.seats.getAll refs = some seats :=
  Option.bind_eq_some_iff

theorem applyUpdate_spec
    (update : Realtime.Update) (elements : heap.lists.get list = some refs)
    (stored : heap.seats.getAll refs = some seats) :
    ∃ after result,
      heap.applyUpdate (some list) update = some (after, some result) ∧
        Applied update heap list refs seats after result := by
  obtain ⟨objects, next, ran, mapped⟩ := mapSeats_spec update stored
  have keptLists : heap.lists.Keeps (heap.lists.launch next) :=
    (Registry.Keeps.refl heap.lists).launch next
  have isNew : heap.lists.next ≠ list :=
    Nat.ne_of_gt (Registry.lt_next_of_get elements)
  have anew := mapped.next_eq_iff stored
  have compared := any_ne_eq_false_iff mapped.length
  cases differs : (next.zip refs).any fun pair => decide (pair.1 ≠ pair.2) with
  | true =>
      have notSame : next ≠ refs := by
        intro same
        rw [compared.mpr same] at differs
        cases differs
      have found :
          (heap.lists.launch next).get heap.lists.next = some next :=
        Registry.get_launch_self heap.lists next
      refine ⟨⟨objects, heap.lists.launch next⟩, heap.lists.next, ?_,
        mapped.kept, keptLists, ?_, ?_, next, found, mapped.length,
        mapped.places⟩
      · simp only [Heap.applyUpdate, elements, ran, differs, if_true]
      · exact read_eq_some_iff.mpr ⟨next, found, mapped.read⟩
      · exact ⟨fun same => absurd same isNew,
          fun unchanged => absurd (anew.mpr unchanged) notSame⟩
  | false =>
      have isSame := compared.mp differs
      have unchanged := anew.mp isSame
      have found :
          (heap.lists.launch next).get list = some next := by
        rw [isSame]
        exact Registry.get_launch_of_get elements
      refine ⟨⟨objects, heap.lists.launch next⟩, list, ?_, mapped.kept,
        keptLists, ?_, ⟨fun _ => unchanged, fun _ => rfl⟩, next, found,
        mapped.length, mapped.places⟩
      · simp only [Heap.applyUpdate, elements, ran, differs,
          Bool.false_eq_true, if_false]
      · exact read_eq_some_iff.mpr ⟨next, found, mapped.read⟩

/-- The list of the page that is read off its objects. -/
theorem applyUpdate_refines
    (update : Realtime.Update) (stored : heap.read list = some seats) :
    ∃ after result,
      heap.applyUpdate (some list) update = some (after, some result) ∧
        after.read result = applyUpdate (heap.read list) update := by
  obtain ⟨refs, elements, found⟩ := read_eq_some_iff.mp stored
  obtain ⟨after, result, ran, applied⟩ := applyUpdate_spec update elements found
  refine ⟨after, result, ran, ?_⟩
  rw [applied.read, stored, applyUpdate_some]

theorem applyAll_cons {after : Heap} {result : Nat} {update : Realtime.Update}
    (ran : heap.applyUpdate (some list) update = some (after, some result))
    (rest : List Realtime.Update) :
    heap.applyAll (some list) (update :: rest) =
      after.applyAll (some result) rest := by
  rw [Heap.applyAll, List.foldlM_cons, ran]
  rfl

theorem applyAll_spec
    (updates : List Realtime.Update) (stored : heap.read list = some seats) :
    ∃ after result,
      heap.applyAll (some list) updates = some (after, some result) ∧
        after.read result =
          some
            (seats.map fun seat =>
              updates.foldl (fun current update => touched update current)
                seat) := by
  induction updates generalizing heap list seats with
  | nil =>
      refine ⟨heap, list, rfl, ?_⟩
      simpa using stored
  | cons update rest ih =>
      obtain ⟨refs, elements, found⟩ := read_eq_some_iff.mp stored
      obtain ⟨middle, between, ran, applied⟩ :=
        applyUpdate_spec update elements found
      obtain ⟨after, result, ranRest, read⟩ := ih applied.read
      refine ⟨after, result, (applyAll_cons ran rest).trans ranRest, ?_⟩
      rw [read, List.map_map]
      rfl

theorem applyAll_comm
    {first second : Realtime.Update} (stored : heap.read list = some seats)
    (disjoint : ∀ id ∈ first.seatIds, id ∉ second.seatIds) :
    ∃ left leftResult right rightResult shown,
      heap.applyAll (some list) [first, second] =
          some (left, some leftResult) ∧
        heap.applyAll (some list) [second, first] =
          some (right, some rightResult) ∧
        left.read leftResult = some shown ∧
        right.read rightResult = some shown := by
  obtain ⟨left, leftResult, leftRan, leftRead⟩ :=
    applyAll_spec [first, second] stored
  obtain ⟨right, rightResult, rightRan, rightRead⟩ :=
    applyAll_spec [second, first] stored
  refine ⟨left, leftResult, right, rightResult, _, leftRan, rightRan, leftRead,
    ?_⟩
  rw [rightRead]
  congr 2
  funext seat
  exact (touched_comm disjoint seat).symm

/-- The second time nothing changes, so the list stays where it is. -/
theorem applyUpdate_twice
    (update : Realtime.Update) (stored : heap.read list = some seats) :
    ∃ once twice result,
      heap.applyUpdate (some list) update = some (once, some result) ∧
        once.applyUpdate (some result) update = some (twice, some result) ∧
        twice.read result = once.read result := by
  obtain ⟨refs, elements, found⟩ := read_eq_some_iff.mp stored
  obtain ⟨once, result, ran, applied⟩ := applyUpdate_spec update elements found
  obtain ⟨onceRefs, onceElements, onceFound⟩ := read_eq_some_iff.mp applied.read
  obtain ⟨twice, again, ranAgain, appliedAgain⟩ :=
    applyUpdate_spec update onceElements onceFound
  have unchanged :
      (seats.map (touched update)).map (touched update) =
        seats.map (touched update) := by
    rw [List.map_map]
    congr 1
    funext seat
    exact touched_twice update seat
  have isResult := appliedAgain.same.mpr unchanged
  rw [isResult] at ranAgain
  refine ⟨once, twice, result, ran, ranAgain, ?_⟩
  rw [← isResult, appliedAgain.read, unchanged, isResult, applied.read]

end Apply

/-- The last update that names a seat decides its state; updates of other
seats do not get in each other's way, and an update leaves what it does not
change where it is. -/
theorem seat_updates_fold_to_the_last_writer {heap : Heap} {list : Nat}
    {seats : List SeatView} (stored : heap.read list = some seats) :
    (∀ updates, ∃ after result,
      heap.applyAll (some list) updates = some (after, some result) ∧
        after.read result =
          some
            (seats.map fun seat =>
              { seat with
                status :=
                  (lastState updates seat.id).getD seat.status })) ∧
    (∀ first second : Realtime.Update,
      (∀ id ∈ first.seatIds, id ∉ second.seatIds) →
        ∃ left leftResult right rightResult shown,
          heap.applyAll (some list) [first, second] =
              some (left, some leftResult) ∧
            heap.applyAll (some list) [second, first] =
              some (right, some rightResult) ∧
            left.read leftResult = some shown ∧
            right.read rightResult = some shown) ∧
    (∀ update, ∃ once twice result,
      heap.applyUpdate (some list) update = some (once, some result) ∧
        once.applyUpdate (some result) update = some (twice, some result) ∧
        twice.read result = once.read result) ∧
    ∀ update, ∃ after result refs next shown,
      heap.applyUpdate (some list) update = some (after, some result) ∧
        heap.lists.get list = some refs ∧
        after.lists.get result = some next ∧
        after.read result = some shown ∧
        (result = list ↔
          shown.map SeatView.status = seats.map SeatView.status) ∧
        next.length = refs.length ∧
        (∀ (place ref new : Nat) (before now : SeatView),
          refs[place]? = some ref → next[place]? = some new →
            seats[place]? = some before → shown[place]? = some now →
              (new = ref ↔ now.status = before.status)) ∧
        heap.seats.Keeps after.seats ∧ heap.lists.Keeps after.lists := by
  refine ⟨?_, fun _ _ disjoint => applyAll_comm stored disjoint,
    fun update => applyUpdate_twice update stored, ?_⟩
  · intro updates
    obtain ⟨after, result, ran, read⟩ := applyAll_spec updates stored
    refine ⟨after, result, ran, ?_⟩
    simp only [read, foldl_touched]
  · intro update
    obtain ⟨refs, elements, found⟩ := read_eq_some_iff.mp stored
    obtain ⟨after, result, ran, applied⟩ :=
      applyUpdate_spec update elements found
    obtain ⟨next, isNext, lengths, places⟩ := applied.places
    refine ⟨after, result, refs, next, _, ran, elements, isNext, applied.read,
      ?_, lengths, ?_, applied.keptSeats, applied.keptLists⟩
    · rw [applied.same, map_status_touched_iff]
    · intro place ref new before now isRef isNew isBefore isNow
      rw [List.getElem?_map, isBefore, Option.map_some] at isNow
      cases isNow
      rw [← touched_eq_self_iff]
      exact places place ref new before isRef isNew isBefore

-- Two seats, and two updates that name the first of them.
private def twoSeats : Heap where
  seats :=
    (Registry.empty.launch ⟨"s1", "Seat 1", "available"⟩).launch
      ⟨"s2", "Seat 2", "sold"⟩
  lists := Registry.empty.launch [0, 1]

theorem seat_updates_fold_for_two_seats :
    twoSeats.read 0 =
        some
          [⟨"s1", "Seat 1", "available"⟩, ⟨"s2", "Seat 2", "sold"⟩] ∧
      ∃ after result,
        twoSeats.applyAll (some 0)
            [⟨["s1", "s9"], "held"⟩, ⟨["s1", "s2"], "sold"⟩] =
          some (after, some result) ∧
        after.read result =
          some [⟨"s1", "Seat 1", "sold"⟩, ⟨"s2", "Seat 2", "sold"⟩] := by
  have stored :
      twoSeats.read 0 =
        some
          [⟨"s1", "Seat 1", "available"⟩, ⟨"s2", "Seat 2", "sold"⟩] := by
    decide
  obtain ⟨folds, _⟩ := seat_updates_fold_to_the_last_writer stored
  obtain ⟨after, result, ran, read⟩ :=
    folds [⟨["s1", "s9"], "held"⟩, ⟨["s1", "s2"], "sold"⟩]
  refine ⟨stored, after, result, ran, ?_⟩
  rw [read]
  decide

end TicketWave.SeatMap
