import TicketWave.Uuid

/-!
# Errors between services

A gRPC status.  Of the text of other errors the model keeps what the source
writes and drops what Postgres adds.
-/

namespace TicketWave

/-- The codes of `google.golang.org/grpc/codes`. -/
inductive Code where
  | ok
  | canceled
  | unknown
  | invalidArgument
  | deadlineExceeded
  | notFound
  | alreadyExists
  | permissionDenied
  | resourceExhausted
  | failedPrecondition
  | aborted
  | outOfRange
  | unimplemented
  | internal
  | unavailable
  | dataLoss
  | unauthenticated
  deriving DecidableEq, Repr

/-- An error as its caller sees it; `reason` is empty unless `apierr.New`
attached one. -/
structure Status where
  code : Code
  reason : String
  message : String
  deriving DecidableEq, Repr

namespace Status

/-- `status.Error` -/
def error (code : Code) (message : String) : Status :=
  ⟨code, "", message⟩

/-- An ordinary Go error crossing the gRPC boundary. -/
def wrapped (message : String) : Status :=
  error .unknown message

def invalid (message : String) : Status :=
  error .invalidArgument message

/-- `apierr.New` -/
def withReason (code : Code) (reason message : String) : Status :=
  ⟨code, reason, message⟩

/-- `isRefusal`: the service said no, as opposed to breaking. -/
def isRefusal (status : Status) : Bool :=
  status.code = .failedPrecondition

end Status

/-- The loop over `seat_ids` in both validators: every text parses and no
parsed value repeats.  `seen` is the source's map of the same name. -/
def checkSeatIds (uuid : UuidText) : List UUID → List String → Option Status
  | _, [] => none
  | seen, raw :: rest =>
      match uuid.parse raw with
      | none => some (Status.invalid "seat_ids must all be UUIDs")
      | some id =>
          if id ∈ seen then
            some (Status.invalid "seat_ids must not repeat a seat")
          else
            checkSeatIds uuid (id :: seen) rest

/-- The loop accepts exactly the texts that parse to values which are neither
repeated nor seen before. -/
theorem checkSeatIds_eq_none_iff
    (uuid : UuidText) (seen : List UUID) (texts : List String) :
    checkSeatIds uuid seen texts = none ↔
      (∀ text ∈ texts, ∃ id, uuid.parse text = some id ∧ id ∉ seen) ∧
        (texts.map uuid.parse).Nodup := by
  induction texts generalizing seen with
  | nil => simp [checkSeatIds]
  | cons text rest ih =>
      rw [checkSeatIds, List.map_cons, List.nodup_cons, List.forall_mem_cons]
      cases parsed : uuid.parse text with
      | none => simp
      | some id =>
          by_cases old : id ∈ seen
          · simp [old]
          · simp only [if_neg old, ih, List.mem_cons, not_or]
            constructor
            · rintro ⟨fresh, distinct⟩
              refine ⟨⟨⟨id, rfl, old⟩, ?_⟩, ?_, distinct⟩
              · intro other member
                obtain ⟨value, read, _, new⟩ := fresh other member
                exact ⟨value, read, new⟩
              · intro again
                obtain ⟨other, member, read⟩ := List.mem_map.mp again
                obtain ⟨value, otherRead, differs, _⟩ := fresh other member
                rw [read] at otherRead
                exact differs (Option.some.inj otherRead).symm
            · rintro ⟨⟨_, fresh⟩, new, distinct⟩
              refine ⟨?_, distinct⟩
              intro other member
              obtain ⟨value, read, unseen⟩ := fresh other member
              refine ⟨value, read, ?_, unseen⟩
              intro same
              rw [same] at read
              exact new (List.mem_map.mpr ⟨other, member, read⟩)

/-- One to ten texts, each of them a UUID, and no two of the same one. -/
structure SeatList (uuid : UuidText) (texts : List String) : Prop where
  nonempty : 1 ≤ texts.length
  short : texts.length ≤ 10
  parses : ∀ text ∈ texts, (uuid.parse text).isSome
  distinct : (texts.map uuid.parse).Nodup

theorem seatList_iff (uuid : UuidText) (texts : List String) :
    SeatList uuid texts ↔
      ¬ (texts.length = 0 ∨ texts.length > 10) ∧
        checkSeatIds uuid [] texts = none := by
  have parses :
      (∀ text ∈ texts, ∃ id, uuid.parse text = some id ∧ id ∉ []) ↔
        ∀ text ∈ texts, (uuid.parse text).isSome := by
    simp [Option.isSome_iff_exists]
  rw [checkSeatIds_eq_none_iff, parses]
  constructor
  · intro seats
    have nonempty := seats.nonempty
    have short := seats.short
    exact ⟨by omega, seats.parses, seats.distinct⟩
  · rintro ⟨bounds, parses, distinct⟩
    exact ⟨by omega, by omega, parses, distinct⟩

theorem map_parse_of_columns {uuid : UuidText} {texts : List String}
    {ids : List UUID} (parses : ∀ text ∈ texts, (uuid.parse text).isSome)
    (read : uuid.columns texts = some ids) :
    texts.map uuid.parse = ids.map some := by
  induction texts generalizing ids with
  | nil =>
      cases read
      rfl
  | cons text rest ih =>
      obtain ⟨stored, others, readHead, readRest, rfl⟩ :=
        uuid.columns_cons_eq_some_iff.mp read
      obtain ⟨id, parsed⟩ :=
        Option.isSome_iff_exists.mp (parses text List.mem_cons_self)
      have isStored : stored = id := uuid.column_agrees parsed readHead
      have restParses : ∀ other ∈ rest, (uuid.parse other).isSome :=
        fun other member => parses other (List.mem_cons_of_mem text member)
      rw [List.map_cons, List.map_cons, parsed, isStored,
        ih restParses readRest]

namespace SeatList

variable {uuid : UuidText} {texts : List String}

theorem ne_nil (seats : SeatList uuid texts) : texts ≠ [] :=
  List.ne_nil_of_length_pos seats.nonempty

theorem columns_nodup {ids : List UUID} (seats : SeatList uuid texts)
    (read : uuid.columns texts = some ids) : ids.Nodup := by
  have distinct := seats.distinct
  rw [map_parse_of_columns seats.parses read] at distinct
  exact distinct.of_map

end SeatList

end TicketWave
