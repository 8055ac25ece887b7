import TicketWave.Checkout.Page
import TicketWave.Order.Verdicts
import TicketWave.Saga.Notices

/-! # The requests of a checkout -/

namespace TicketWave.Checkout

open Library

variable {uuid : UuidText} {ours : UUID → Bool} {mine : String → Bool}
  {price : Int}

namespace Phase

/-- The call that the gateway has made for the request. -/
def call : Phase → Option Order.CreateOrderRequest
  | .called req => some req
  | .taken req _ => some req
  | .answered req _ => some req
  | .sent | .refused => none

/-- The call, once order-svc has taken it. -/
def inService : Phase → Option Order.CreateOrderRequest
  | .taken req _ => some req
  | .answered req _ => some req
  | .sent | .refused | .called _ => none

/-- The request will never start a run of `CreateOrder`. -/
def barred (uuid : UuidText) : Phase → Bool
  | .sent => false
  | .refused => true
  | .called req => (Order.validateCreateOrder uuid req).isSome
  | .taken req _ => (Order.validateCreateOrder uuid req).isSome
  | .answered req _ => (Order.validateCreateOrder uuid req).isSome

end Phase

/-- Where a step can bring a request. -/
inductive Advance
    (ours : UUID → Bool) (site next : Site uuid) (old : Request) :
    Phase → Prop
  | stays : Advance ours site next old old.phase
  | refused (sent : old.phase = .sent) :
      Advance ours site next old .refused
  | called
      {req : Order.CreateOrderRequest} {claims : Gateway.Claims}
      (sent : old.phase = .sent) (token : old.token = some claims)
      (user : req.userId = claims.userId)
      (key : req.idempotencyKey = old.key) :
      Advance ours site next old (.called req)
  | taken
      {req : Order.CreateOrderRequest} {orderId : UUID}
      (called : old.phase = .called req)
      (stepped :
        Saga.step ours site.system (.order (.start req orderId)) =
          some next.system) :
      Advance ours site next old (.taken req site.system.order.runs.next)
  | answered
      {req : Order.CreateOrderRequest} {run : Nat}
      {result : Except Status Order.CreateOrderResponse}
      (taken : old.phase = .taken req run)
      (returned : site.result req run = some result) :
      Advance ours site next old (.answered req result)

structure Advances
    (ours : UUID → Bool) (site next : Site uuid) (old new : Request) :
    Prop where
  key : new.key = old.key
  token : new.token = old.token
  phase : Advance ours site next old new.phase

variable {site next : Site uuid}

theorem Advances.refl (request : Request) :
    Advances ours site next request request :=
  ⟨rfl, rfl, .stays⟩

theorem advances_of_arrive {refusal : Option Gateway.HttpError}
    {old new : Request} (moved : old.arrive price refusal = some new) :
    Advances ours site next old new := by
  unfold Request.arrive at moved
  split at moved
  · rename_i sent
    cases moved
    exact ⟨rfl, rfl, .refused sent⟩
  · rename_i claims sent token
    split at moved
    · cases moved
      exact ⟨rfl, rfl, .refused sent⟩
    · rename_i req called
      cases moved
      obtain ⟨user, key⟩ := Gateway.createOrderCall_ok called
      exact ⟨rfl, rfl, .called sent token user key⟩
  · cases moved

theorem advances_of_giveUp {err : Status} {old new : Request}
    (moved : old.giveUp err = some new) : Advances ours site next old new := by
  unfold Request.giveUp at moved
  split at moved
  · cases moved
    exact ⟨rfl, rfl, .stays⟩
  · cases moved
    exact ⟨rfl, rfl, .stays⟩
  · cases moved

section Step

variable {site next : Site uuid} {label : Label} {id : Nat}

theorem request_of_transition {new : Request}
    (transition : Transition ours mine price site label next)
    (found : next.requests.get id = some new) :
    (∃ old, site.requests.get id = some old ∧
        Advances ours site next old new) ∨
      id = site.requests.next ∧ new.phase = .sent ∧
        ∃ other mutation, next.mutations.get other = some mutation ∧
          mutation.key = new.key := by
  have changed :
      ∀ {other : Nat} {before after : Request},
        (site.requests.put other after).get id = some new →
          site.requests.get other = some before →
            Advances ours site next before after →
              ∃ old, site.requests.get id = some old ∧
                Advances ours site next old new := by
    intro other before after put stored advances
    rcases Registry.cases_of_get_put put with ⟨rfl, rfl⟩ | ⟨_, kept⟩
    · exact ⟨before, stored, advances⟩
    · exact ⟨new, kept, .refl new⟩
  cases transition with
  | system => exact Or.inl ⟨new, found, .refl new⟩
  | bought =>
      rcases Registry.cases_of_get_launch found with ⟨isNew, rfl⟩ | kept
      · exact Or.inr
          ⟨isNew, rfl, _, _, Registry.get_launch_self site.mutations _, rfl⟩
      · exact Or.inl ⟨new, kept, .refl new⟩
  | arrived stored moved =>
      exact Or.inl (changed found stored (advances_of_arrive moved))
  | taken stored called stepped =>
      exact Or.inl (changed found stored ⟨rfl, rfl, .taken called stepped⟩)
  | answered stored taken returned =>
      exact Or.inl (changed found stored ⟨rfl, rfl, .answered taken returned⟩)
  | gaveUp stored moved =>
      exact Or.inl (changed found stored (advances_of_giveUp moved))
  | @heard other report mutation reaction hears reacts =>
      cases reaction with
      | resend token =>
          rcases Registry.cases_of_get_launch found with ⟨isNew, rfl⟩ | kept
          · exact Or.inr
              ⟨isNew, rfl, other, _, Registry.get_put_self hears, rfl⟩
          · exact Or.inl ⟨new, kept, .refl new⟩
      | refresh err => exact Or.inl ⟨new, found, .refl new⟩
      | resolve => exact Or.inl ⟨new, found, .refl new⟩
      | reject err => exact Or.inl ⟨new, found, .refl new⟩

theorem request_kept {old : Request}
    (transition : Transition ours mine price site label next)
    (found : site.requests.get id = some old) :
    ∃ new, next.requests.get id = some new ∧
      Advances ours site next old new := by
  have stays :
      ∀ {other : Nat} {before after : Request},
        site.requests.get other = some before →
          ∃ new, (site.requests.put other after).get id = some new := by
    intro other before after stored
    by_cases same : id = other
    · subst same
      exact ⟨after, Registry.get_put_self stored⟩
    · exact ⟨old, (Registry.get_put_of_ne same).trans found⟩
  have kept : ∃ new, next.requests.get id = some new := by
    cases transition with
    | system => exact ⟨old, found⟩
    | bought => exact ⟨old, Registry.get_launch_of_get found⟩
    | arrived stored => exact stays stored
    | taken stored => exact stays stored
    | answered stored => exact stays stored
    | gaveUp stored => exact stays stored
    | @heard _ _ _ reaction =>
        cases reaction with
        | resend token => exact ⟨old, Registry.get_launch_of_get found⟩
        | refresh err => exact ⟨old, found⟩
        | resolve => exact ⟨old, found⟩
        | reject err => exact ⟨old, found⟩
  obtain ⟨new, isNew⟩ := kept
  rcases request_of_transition transition isNew with
    ⟨before, stored, advances⟩ | ⟨isNext, _⟩
  · rw [found] at stored
    cases stored
    exact ⟨new, isNew, advances⟩
  · have bound := Registry.lt_next_of_get found
    omega

theorem current_of_transition {pending : Pending}
    (transition : Transition ours mine price site label next)
    (current : next.keeper.current = some pending) :
    site.keeper.current = some pending ∨
      fresh mine site.drawn pending.key ∧
        next.drawn = pending.key :: site.drawn := by
  cases transition with
  | @bought body random token isFresh =>
      have isCurrent : site.keeper.keyFor body.seatIds random = pending :=
        Option.some.inj current
      unfold KeyKeeper.keyFor at isCurrent
      split at isCurrent
      · rename_i old stored
        split at isCurrent
        · exact Or.inl (isCurrent ▸ stored)
        · cases isCurrent
          exact Or.inr ⟨isFresh, rfl⟩
      · cases isCurrent
        exact Or.inr ⟨isFresh, rfl⟩
  | @heard _ _ _ reaction =>
      cases reaction with
      | resolve => cases current
      | reject err =>
          have settled : (site.keeper.settle (some err)).current =
              some pending :=
            current
          unfold KeyKeeper.settle at settled
          by_cases unknown : isUnknownOutcome err = true
          · simp only [if_pos unknown] at settled
            exact Or.inl settled
          · simp only [if_neg unknown] at settled
            cases settled
      | refresh err => exact Or.inl current
      | resend token => exact Or.inl current
  | _ => exact Or.inl current

theorem drawn_of_transition
    (transition : Transition ours mine price site label next) :
    next.drawn = site.drawn ∨
      ∃ random, fresh mine site.drawn random ∧
        next.drawn = random :: site.drawn := by
  cases transition with
  | @bought _ random _ isFresh => exact Or.inr ⟨random, isFresh, rfl⟩
  | @heard _ _ _ reaction => cases reaction <;> exact Or.inl rfl
  | _ => exact Or.inl rfl

theorem mem_drawn_of_transition {key : String}
    (transition : Transition ours mine price site label next)
    (drawn : key ∈ site.drawn) : key ∈ next.drawn := by
  rcases drawn_of_transition transition with same | ⟨_, _, more⟩
  · rw [same]
    exact drawn
  · rw [more]
    exact List.mem_cons_of_mem _ drawn

theorem mutation_of_transition {mutation : Mutation}
    (transition : Transition ours mine price site label next)
    (found : next.mutations.get id = some mutation) :
    (∃ old, site.mutations.get id = some old ∧ old.key = mutation.key) ∨
      ∃ pending, next.keeper.current = some pending ∧
        pending.key = mutation.key := by
  cases transition with
  | bought =>
      rcases Registry.cases_of_get_launch found with ⟨_, rfl⟩ | kept
      · exact Or.inr ⟨_, rfl, rfl⟩
      · exact Or.inl ⟨mutation, kept, rfl⟩
  | @heard other report before reaction hears reacts =>
      cases reaction with
      | refresh err =>
          rcases Registry.cases_of_get_put found with ⟨rfl, rfl⟩ | ⟨_, kept⟩
          · exact Or.inl ⟨before, hears, rfl⟩
          · exact Or.inl ⟨mutation, kept, rfl⟩
      | resend token =>
          rcases Registry.cases_of_get_put found with ⟨rfl, rfl⟩ | ⟨_, kept⟩
          · exact Or.inl ⟨before, hears, rfl⟩
          · exact Or.inl ⟨mutation, kept, rfl⟩
      | resolve =>
          exact Or.inl ⟨mutation, (Registry.get_of_get_finish found).2, rfl⟩
      | reject err =>
          exact Or.inl ⟨mutation, (Registry.get_of_get_finish found).2, rfl⟩
  | _ => exact Or.inl ⟨mutation, found, rfl⟩

end Step

def Label.Genuine : Label → Prop
  | .system label => label.Genuine
  | _ => True

instance (label : Label) : Decidable label.Genuine :=
  match label with
  | .system label => inferInstanceAs (Decidable label.Genuine)
  | .buy _ _ _ => isTrue trivial
  | .arrive _ _ => isTrue trivial
  | .take _ _ => isTrue trivial
  | .answer _ => isTrue trivial
  | .giveUp _ _ => isTrue trivial
  | .hear _ _ => isTrue trivial

/-- If the key is one of the page's, order-svc has the request from it. -/
def Sent (mine : String → Bool) (requests : Registry Request)
    (req : Order.CreateOrderRequest) : Prop :=
  mine req.idempotencyKey = true →
    ∃ id request, requests.get id = some request ∧
      request.phase.inService = some req

structure Traced
    (ours : UUID → Bool) (mine : String → Bool) (site : Site uuid) :
    Prop where
  told : Saga.Told ours site.system
  vouched : Order.Vouched site.system.order
  asked : Order.Asked (Sent mine site.requests) site.system.order
  formed :
    ∀ {id request req}, site.requests.get id = some request →
      request.phase.call = some req →
        req.idempotencyKey = request.key ∧
          ∃ claims, request.token = some claims ∧ req.userId = claims.userId
  placed :
    ∀ {id request req run}, site.requests.get id = some request →
      request.phase = .taken req run →
        run < site.system.order.runs.next ∧
          ∀ current, site.system.order.runs.get run = some current →
            current.request.req = req
  concluded :
    ∀ {id request req answer}, site.requests.get id = some request →
      request.phase = .answered req (.error answer) →
        answer ∈ Order.conclusions →
          Order.Concluded site.system.order req answer
  keeper :
    ∀ pending, site.keeper.current = some pending → pending.key ∈ site.drawn
  drawn : ∀ key ∈ site.drawn, mine key = true ∧ key ≠ ""

theorem traced_empty : Traced ours mine (Site.empty uuid) where
  told := Saga.told_empty
  vouched := Order.vouched_empty
  asked := Order.asked_empty _
  formed := nofun
  placed := nofun
  concluded := nofun
  keeper := nofun
  drawn := nofun

theorem Phase.call_of_inService {phase : Phase} {req : Order.CreateOrderRequest}
    (inService : phase.inService = some req) : phase.call = some req := by
  cases phase <;> first | exact inService | cases inService

section Traced

variable {site next : Site uuid} {label : Label}
  {req : Order.CreateOrderRequest} {answer : Status} {id run : Nat}
  {request : Request}

theorem Advances.inService {old new : Request}
    (advances : Advances ours site next old new)
    (inService : old.phase.inService = some req) :
    new.phase.inService = some req := by
  have phase := advances.phase
  generalize new.phase = newPhase at phase
  cases phase with
  | stays => exact inService
  | refused sent =>
      rw [sent] at inService
      cases inService
  | called sent =>
      rw [sent] at inService
      cases inService
  | taken called =>
      rw [called] at inService
      cases inService
  | answered taken =>
      rw [taken] at inService
      exact inService

theorem sent_of_transition
    (transition : Transition ours mine price site label next)
    (sent : Sent mine site.requests req) : Sent mine next.requests req := by
  intro isMine
  obtain ⟨id, old, found, inService⟩ := sent isMine
  obtain ⟨new, kept, advances⟩ := request_kept transition found
  exact ⟨id, new, kept, advances.inService inService⟩

/-- The services take a step or none.  A request that they take in with a key
of the page is one of the page's. -/
theorem system_of_transition (genuine : label.Genuine)
    (transition : Transition ours mine price site label next) :
    next.system = site.system ∨
      ∃ moved : Saga.Label, moved.Genuine ∧
        Saga.step ours site.system moved = some next.system ∧
        ∀ req orderId, moved = .order (.start req orderId) →
          Sent mine next.requests req := by
  cases transition with
  | @system moved _ foreign stepped =>
      refine Or.inr ⟨moved, genuine, stepped, ?_⟩
      rintro req orderId rfl isMine
      have isForeign : (!mine req.idempotencyKey) = true := foreign
      rw [isMine] at isForeign
      cases isForeign
  | @taken id orderId request req system found called stepped =>
      refine Or.inr ⟨.order (.start req orderId), trivial, stepped, ?_⟩
      intro other otherId same _
      cases same
      exact ⟨id, _, Registry.get_put_self found, rfl⟩
  | @heard _ _ _ reaction => cases reaction <;> exact Or.inl rfl
  | _ => exact Or.inl rfl

theorem orderSvc_of_transition (genuine : label.Genuine)
    (transition : Transition ours mine price site label next) :
    next.system.order = site.system.order ∨
      ∃ moved, Order.Transition site.system.order moved next.system.order ∧
        ∀ req orderId, moved = .start req orderId →
          Sent mine next.requests req := by
  rcases system_of_transition genuine transition with
    same | ⟨moved, _, stepped, made⟩
  · exact Or.inl (congrArg Saga.System.order same)
  · rcases Saga.order_of_transition (Saga.transition_of_step stepped) with
      same | ⟨own, ordered, isStart⟩
    · exact Or.inl same
    · refine Or.inr ⟨own, ordered, ?_⟩
      intro req orderId started
      exact made req orderId (started ▸ isStart req orderId started)

theorem concluded_of_site (traced : Traced ours mine site)
    (genuine : label.Genuine)
    (transition : Transition ours mine price site label next)
    (concluded : Order.Concluded site.system.order req answer) :
    Order.Concluded next.system.order req answer := by
  rcases orderSvc_of_transition genuine transition with
    same | ⟨_, ordered, _⟩
  · rw [same]
    exact concluded
  · exact Order.concluded_of_transition traced.told.linked.orderSide.ledger
      ordered concluded

theorem formed_of_transition (traced : Traced ours mine site)
    (transition : Transition ours mine price site label next)
    (found : next.requests.get id = some request)
    (calls : request.phase.call = some req) :
    req.idempotencyKey = request.key ∧
      ∃ claims, request.token = some claims ∧ req.userId = claims.userId := by
  rcases request_of_transition transition found with
    ⟨old, stored, advances⟩ | ⟨_, sent, _⟩
  · have before :
        old.phase.call = some req →
          req.idempotencyKey = request.key ∧
            ∃ claims, request.token = some claims ∧
              req.userId = claims.userId := by
      intro wasCalled
      rw [advances.key, advances.token]
      exact traced.formed stored wasCalled
    have phase := advances.phase
    generalize request.phase = newPhase at phase calls
    cases phase with
    | stays => exact before calls
    | refused => cases calls
    | called sent token user key =>
        cases calls
        rw [advances.key, advances.token]
        exact ⟨key, _, token, user⟩
    | taken called =>
        cases calls
        exact before (congrArg Phase.call called)
    | answered taken =>
        cases calls
        exact before (congrArg Phase.call taken)
  · rw [sent] at calls
    cases calls

theorem placed_of_start {system : Saga.System uuid} {orderId : UUID}
    (stepped :
      Saga.step ours site.system (.order (.start req orderId)) = some system) :
    site.system.order.runs.next < system.order.runs.next ∧
      ∀ current,
        system.order.runs.get site.system.order.runs.next = some current →
          current.request.req = req := by
  cases Saga.transition_of_step stepped with
  | order own moved =>
      constructor
      · cases moved with
        | refused => exact Nat.lt_succ_self _
        | started => exact Nat.lt_succ_self _
      · intro current found
        rcases Order.earlier_of_transition moved found with
          ⟨_, _, isStart⟩ | ⟨earlier, stored, _⟩
        · cases isStart
          rfl
        · have bound := Registry.lt_next_of_get stored
          exact absurd bound (Nat.lt_irrefl _)

theorem placed_of_transition (traced : Traced ours mine site)
    (genuine : label.Genuine)
    (transition : Transition ours mine price site label next)
    (found : next.requests.get id = some request)
    (taken : request.phase = .taken req run) :
    run < next.system.order.runs.next ∧
      ∀ current, next.system.order.runs.get run = some current →
        current.request.req = req := by
  rcases request_of_transition transition found with
    ⟨old, stored, advances⟩ | ⟨_, sent, _⟩
  · have phase := advances.phase
    rw [taken] at phase
    generalize isPhase : Phase.taken req run = newPhase at phase
    cases phase with
    | stays =>
        obtain ⟨bound, same⟩ := traced.placed stored isPhase.symm
        rcases orderSvc_of_transition genuine transition with
          unchanged | ⟨_, ordered, _⟩
        · rw [unchanged]
          exact ⟨bound, same⟩
        · refine ⟨Nat.lt_of_lt_of_le bound (Order.next_of_transition ordered),
            ?_⟩
          intro current running
          rcases Order.earlier_of_transition ordered running with
            ⟨isNew, _⟩ | ⟨earlier, wasRunning, sameEntry⟩
          · omega
          · have sameRequest : earlier.request.req = current.request.req :=
              congrArg Order.Entry.req (sameEntry .inserted)
            rw [← sameRequest]
            exact same earlier wasRunning
    | refused => cases isPhase
    | called => cases isPhase
    | taken called stepped =>
        cases isPhase
        exact placed_of_start stepped
    | answered => cases isPhase
  · rw [taken] at sent
    cases sent

theorem result_error (returned : site.result req run = some (.error answer)) :
    Order.validateCreateOrder uuid req = some answer ∨
      ∃ current, site.system.order.runs.get run = some current ∧
        current.stage = .returned (.error answer) := by
  unfold Site.result at returned
  split at returned
  · rename_i err refused
    cases returned
    exact Or.inl refused
  · split at returned
    · rename_i running
      cases returned
      exact Or.inr ⟨_, running, rfl⟩
    · cases returned

theorem concluded_of_result (traced : Traced ours mine site)
    (found : site.requests.get id = some request)
    (taken : request.phase = .taken req run)
    (returned : site.result req run = some (.error answer))
    (conclusion : answer ∈ Order.conclusions) :
    Order.Concluded site.system.order req answer := by
  rcases result_error returned with refused | ⟨current, running, stage⟩
  · have invalid := Order.validateCreateOrder_error refused
    exact absurd conclusion (Order.invalid_not_conclusion invalid)
  · rw [← (traced.placed found taken).2 current running]
    exact Order.concluded_of_returned traced.told.linked.orderSide.ledger
      traced.told.accountable traced.vouched running stage conclusion

theorem answered_of_transition (traced : Traced ours mine site)
    (genuine : label.Genuine)
    (transition : Transition ours mine price site label next)
    (found : next.requests.get id = some request)
    (answered : request.phase = .answered req (.error answer))
    (conclusion : answer ∈ Order.conclusions) :
    Order.Concluded next.system.order req answer := by
  apply concluded_of_site traced genuine transition
  rcases request_of_transition transition found with
    ⟨old, stored, advances⟩ | ⟨_, sent, _⟩
  · have phase := advances.phase
    rw [answered] at phase
    generalize isPhase : Phase.answered req (.error answer) = newPhase at phase
    cases phase with
    | stays => exact traced.concluded stored isPhase.symm conclusion
    | refused => cases isPhase
    | called => cases isPhase
    | taken => cases isPhase
    | answered taken returned =>
        cases isPhase
        exact concluded_of_result traced stored taken returned conclusion
  · rw [answered] at sent
    cases sent

theorem traced_of_transition
    (traced : Traced ours mine site) (genuine : label.Genuine)
    (transition : Transition ours mine price site label next) :
    Traced ours mine next where
  told := by
    rcases system_of_transition genuine transition with
      same | ⟨moved, isGenuine, stepped, _⟩
    · rw [same]
      exact traced.told
    · exact Saga.told_of_step traced.told isGenuine stepped
  vouched := by
    rcases orderSvc_of_transition genuine transition with
      same | ⟨_, ordered, _⟩
    · rw [same]
      exact traced.vouched
    · exact Order.vouched_of_transition traced.told.linked.orderSide.ledger
        traced.vouched ordered
  asked := by
    have before := traced.asked.mono fun _ => sent_of_transition transition
    rcases orderSvc_of_transition genuine transition with
      same | ⟨_, ordered, made⟩
    · rw [same]
      exact before
    · exact Order.asked_of_transition before made ordered
  formed := formed_of_transition traced transition
  placed := placed_of_transition traced genuine transition
  concluded := answered_of_transition traced genuine transition
  keeper := by
    intro pending current
    rcases current_of_transition transition current with
      old | ⟨_, isDrawn⟩
    · exact mem_drawn_of_transition transition (traced.keeper pending old)
    · rw [isDrawn]
      exact List.mem_cons_self
  drawn := by
    intro key member
    rcases drawn_of_transition transition with
      same | ⟨random, isFresh, more⟩
    · rw [same] at member
      exact traced.drawn key member
    · rw [more] at member
      rcases List.mem_cons.mp member with rfl | old
      · exact ⟨isFresh.1, isFresh.2.1⟩
      · exact traced.drawn key old

end Traced

end TicketWave.Checkout
