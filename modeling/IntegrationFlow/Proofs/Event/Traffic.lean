import IntegrationFlow.Event.Traffic
import Mathlib.Data.List.Basic
import Mathlib.Data.List.Induction
import Mathlib.Data.List.Nodup
import Mathlib.Data.List.Perm.Basic

/-!
# What has happened on a bus

Whatever happens on a bus, the ids of subscriptions are new ones, the history is what was published last, and there is a
handler for every delivery (`Sound`), so deliveries can go on until nothing is under way (`Sound.delivers`, `work_lt_work`).
Errors that handlers raise change nothing but the log of them (`after_calm`).
-/

namespace IntegrationFlow

namespace Traffic

/-! ### What has happened -/

/-- The interest of the subscription that is made. -/
def Act.interest? : Act → Option Interest
  | .subscribe interest _ => some interest
  | .wait type flow? execution? => some (waitingFor type flow? execution?)
  | _ => none

/-- What is published. -/
def Act.published? : Act → Option Published
  | .publish time e => some ⟨e, time⟩
  | _ => none

/-- A subscription ends: it is cancelled, or its waiter goes on. -/
def Act.ends (id : String) : Act → Bool
  | .unsubscribe id' => id' == id
  | .resume id' => id' == id
  | _ => false

/-- A subscription has ended. -/
def ended (id : String) (acts : List Act) : Bool :=
  acts.any (·.ends id)

/-- A delivery goes on. -/
def Act.delivers : Act → Bool
  | .begin _ | .call _ => true
  | _ => false

/-- How many subscriptions are made. -/
def made (acts : List Act) : Nat :=
  acts.countP (·.interest?.isSome)

/-- What is published, in order. -/
def published (acts : List Act) : List Published :=
  acts.filterMap Act.published?

/-- What was published last, newest first. -/
def window (capacity : Nat) (acts : List Act) : List Published :=
  (published acts).reverse.take capacity

/-- The events that are published until a subscription ends. -/
def heard (id : String) (acts : List Act) : List Event :=
  (published (acts.takeWhile (!·.ends id))).map (·.event)

/-- The events of the deliveries to a subscription. -/
def eventsFor (id : String) (ds : List Delivery) : List Event :=
  (ds.filter (·.subscription == id)).map (·.event)

/-- The events with which the handler of a subscription was called. -/
def received (t : Traffic) (id : String) : List Event :=
  eventsFor id t.calls

/-- The events that are on the way to a subscription. -/
def underway (t : Traffic) (id : String) : List Event :=
  eventsFor id (t.held ++ t.queued)

/-- How much is left to do until nothing is under way. -/
def work (t : Traffic) : Nat :=
  2 * t.queued.length + t.held.length

section

variable {id : String} {acts : List Act} {a : Act}

theorem made_concat : made (acts ++ [a]) = made acts + if a.interest?.isSome then 1 else 0 := by
  rw [made, List.countP_append, List.countP_singleton]
  rfl

theorem published_concat : published (acts ++ [a]) = published acts ++ a.published?.toList := by
  rw [published, List.filterMap_append]
  cases h : a.published? <;> simp [published, h]

theorem window_concat {capacity : Nat} :
    window capacity (acts ++ [a]) = (a.published?.toList ++ window capacity acts).take capacity := by
  rw [window, published_concat, List.reverse_append]
  cases a.published? with
  | none => simp [window, List.take_take]
  | some p => cases capacity <;> simp [window, List.take_take]

theorem window_concat_of_none {capacity : Nat} (h : a.published? = none) :
    window capacity (acts ++ [a]) = window capacity acts := by
  rw [window_concat, h, Option.toList_none, List.nil_append, window, List.take_take, Nat.min_self]

theorem published?_of_ends (h : a.ends id = true) : a.published? = none := by
  cases a with
  | publish => cases h
  | _ => rfl

theorem ended_concat : ended id (acts ++ [a]) = (ended id acts || a.ends id) := by
  simp [ended]

/-- What is published behind the end of a subscription is not heard. -/
theorem heard_concat : heard id (acts ++ [a]) =
    heard id acts ++ if ended id acts then [] else (a.published?.map (·.event)).toList := by
  induction acts with
  | nil =>
    cases ha : a.ends id with
    | true => simp [heard, published, ended, ha, published?_of_ends ha]
    | false => cases hp : a.published? <;> simp [heard, published, ended, ha, hp]
  | cons b acts ih =>
    cases hb : b.ends id with
    | true => simp [heard, ended, hb]
    | false =>
      have hcons (cs : List Act) : heard id (b :: cs) = (b.published?.map (·.event)).toList ++ heard id cs := by
        cases hp : b.published? <;> simp [heard, published, hb, hp]
      rw [List.cons_append, hcons, hcons, ih, ended, ended, List.any_cons, hb, Bool.false_or, List.append_assoc]

theorem heard_concat_of_none (h : a.published? = none) : heard id (acts ++ [a]) = heard id acts := by
  rw [heard_concat, h, Option.map_none, Option.toList_none, ite_self, List.append_nil]

/-- What is heard comes first in what is published. -/
theorem heard_prefix : heard id acts <+: (published acts).map (·.event) :=
  ((List.takeWhile_prefix _).filterMap _).map _

end

section

variable {id : String} {ds es : List Delivery} {d : Delivery}

theorem eventsFor_append : eventsFor id (ds ++ es) = eventsFor id ds ++ eventsFor id es := by
  rw [eventsFor, List.filter_append, List.map_append]
  rfl

theorem eventsFor_singleton : eventsFor id [d] = if d.subscription = id then [d.event] else [] := by
  by_cases h : d.subscription = id <;> simp [eventsFor, h]

theorem eventsFor_eq_nil (h : ∀ d ∈ ds, d.subscription ≠ id) : eventsFor id ds = [] := by
  rw [eventsFor, List.map_eq_nil_iff, List.filter_eq_nil_iff]
  exact fun d hd => (beq_iff_eq.not).2 (h d hd)

/-- What is published is on its way to a subscription once for every time that the subscription is there and accepts it. -/
theorem eventsFor_publish {b : Bus} {time : Time.Timestamp} {e : Event} : eventsFor id (b.publish time e).2 =
    ((b.subscriptions.filter (·.id == id)).filter (·.interest.accepts e)).map fun _ => e := by
  simp [eventsFor, Bus.publish, Bus.receivers, List.filter_map, List.filter_filter, Function.comp_def, Bool.and_comm]

/-- Deliveries that are made in another order have the same events when there is at most one. -/
theorem eventsFor_of_perm (h : ds.Perm es) (hsingle : (eventsFor id es).length ≤ 1) : eventsFor id ds = eventsFor id es := by
  have hperm : (eventsFor id ds).Perm (eventsFor id es) := (h.filter _).map _
  generalize eventsFor id ds = as, eventsFor id es = bs at *
  rcases bs with _ | ⟨b, _ | ⟨b', bs⟩⟩
  · exact hperm.eq_nil
  · exact List.perm_singleton.1 hperm
  · simp at hsingle

/-- What is taken out of a list and put in front is in the list still. -/
theorem cons_eraseIdx_perm {k : Nat} (h : ds[k]? = some d) : (d :: ds.eraseIdx k).Perm ds := by
  obtain ⟨hk, rfl⟩ := List.getElem?_eq_some_iff.1 h
  exact List.getElem_cons_eraseIdx_perm hk

end

/-! ### The whole of a bus -/

/-- What a bus, its handlers and its deliveries have to do with each other, and with what has happened. -/
structure Sound (capacity slots : Nat) (acts : List Act) (t : Traffic) : Prop where
  made : t.bus.made = Traffic.made acts
  /-- The ids are those of the numbers from one on. -/
  ids : t.ids = (List.range' 1 t.bus.made).map Subscription.idOf
  history : t.bus.history = window capacity acts
  capacity : t.bus.capacity = capacity
  slots : t.free + t.held.length = slots
  subscribed : ∀ s ∈ t.bus.subscriptions, s.id ∈ t.ids
  handled : ∀ id ∈ t.ids, (t.handlers id).isSome
  addressed : ∀ d ∈ t.calls ++ (t.held ++ t.queued), d.subscription ∈ t.ids

section

variable {capacity slots : Nat} {acts : List Act} {a : Act} {t t' : Traffic} {id : String} {handler : Handler}

theorem sound_start : Sound capacity slots [] (start capacity slots) where
  made := rfl
  ids := rfl
  history := by simp [window, published, start]
  capacity := rfl
  slots := rfl
  subscribed := List.forall_mem_nil _
  handled := List.forall_mem_nil _
  addressed := List.forall_mem_nil _

/-- A subscription has a handler if it gets one, or had one. -/
theorem isSome_setHandler {id' : String} :
    ((t.setHandler id handler).handlers id').isSome = true ↔ id' = id ∨ (t.handlers id').isSome = true := by
  show (Table.put t.handlers id (some handler) id').isSome = true ↔ _
  by_cases h : id' = id <;> simp [h]

namespace Sound

/-- The next id is new. -/
theorem idOf_notMem (h : Sound capacity slots acts t) : Subscription.idOf (t.bus.made + 1) ∉ t.ids := by
  rw [h.ids, List.mem_map]
  rintro ⟨n, hn, hid⟩
  have hlt := (List.mem_range'_1.1 hn).2
  rw [Subscription.idOf_inj.1 hid] at hlt
  omega

theorem nodup (h : Sound capacity slots acts t) : t.ids.Nodup := by
  rw [h.ids]
  exact List.Nodup.map (fun m n => Subscription.idOf_inj.1) List.nodup_range'

/-- What neither makes a subscription nor publishes anything leaves the past as it is. -/
theorem silent (h : Sound capacity slots acts t) (hinterest : a.interest? = none) (hpublished : a.published? = none) :
    Sound capacity slots (acts ++ [a]) t :=
  { h with
    made := by rw [made_concat, hinterest]; exact h.made
    history := by
      rw [window_concat_of_none hpublished]
      exact h.history }

theorem join {interest : Interest} (h : Sound capacity slots acts t) (hinterest : a.interest? = some interest)
    (hpublished : a.published? = none) : Sound capacity slots (acts ++ [a]) (t.join interest handler) where
  made := by
    rw [made_concat, hinterest, ← h.made]
    rfl
  ids := by
    show t.ids ++ [Subscription.idOf (t.bus.made + 1)] = (List.range' 1 (t.bus.made + 1)).map Subscription.idOf
    rw [h.ids, List.range'_1_concat, List.map_append, Nat.add_comm 1]
    rfl
  history := by
    rw [window_concat_of_none hpublished]
    exact h.history
  capacity := h.capacity
  slots := h.slots
  subscribed s hs := by
    rcases List.mem_append.1 hs with hs | hs
    · exact List.mem_append_left _ (h.subscribed s hs)
    · rw [List.mem_singleton.1 hs]
      exact List.mem_append_right _ (List.mem_singleton_self _)
  handled id hid := by
    refine isSome_setHandler.2 ?_
    rcases List.mem_append.1 hid with hid | hid
    · exact .inr (h.handled id hid)
    · exact .inl (List.mem_singleton.1 hid)
  addressed d hd := List.mem_append_left _ (h.addressed d hd)

theorem leave (h : Sound capacity slots acts t) : Sound capacity slots acts (t.leave id) :=
  { h with subscribed := fun s hs => h.subscribed s (List.mem_of_mem_filter hs) }

theorem setHandler (h : Sound capacity slots acts t) : Sound capacity slots acts (t.setHandler id handler) :=
  { h with handled := fun id' hid' => isSome_setHandler.2 (.inr (h.handled id' hid')) }

theorem publish {time : Time.Timestamp} {e : Event} (h : Sound capacity slots acts t)
    (ht' : t.publish time e = some t') : Sound capacity slots (acts ++ [.publish time e]) t' := by
  obtain ⟨-, hheld, rfl⟩ := publish_eq_some ht'
  refine ⟨by rw [made_concat]; exact h.made, h.ids, ?_, h.capacity, h.slots, h.subscribed, h.handled, fun d hd => ?_⟩
  · show (⟨e, time⟩ :: t.bus.history).take t.bus.capacity = _
    rw [window_concat, h.history, h.capacity]
    rfl
  · show d.subscription ∈ t.ids
    rcases List.mem_append.1 hd with hd | hd
    · exact h.addressed d (List.mem_append_left _ hd)
    · rw [hheld] at hd
      obtain ⟨s, hs, rfl⟩ := List.mem_map.1 hd
      exact h.subscribed s (List.mem_of_mem_filter hs)

theorem begin {position : Nat} (h : Sound capacity slots acts t) (ht' : t.begin position = some t') :
    Sound capacity slots acts t' := by
  obtain ⟨d, hd, hfree, rfl⟩ := begin_eq_some ht'
  have hperm := cons_eraseIdx_perm hd
  refine { h with slots := ?_, addressed := fun d' hd' => h.addressed d' ?_ }
  · show t.free - 1 + (t.held ++ [d]).length = slots
    have hslots := h.slots
    rw [List.length_append, List.length_singleton]
    omega
  · simp only [List.mem_append, ← hperm.mem_iff, List.mem_cons] at hd' ⊢
    tauto

theorem call {position : Nat} (h : Sound capacity slots acts t) (ht' : t.call position = some t') :
    Sound capacity slots acts t' := by
  obtain ⟨d, handler, hd, -, rfl⟩ := call_eq_some ht'
  have hperm := cons_eraseIdx_perm hd
  have hset : Sound capacity slots acts (t.setHandler d.subscription (handler.receive d.event)) := h.setHandler
  refine { hset with slots := ?_, addressed := fun d' hd' => h.addressed d' ?_ }
  · show t.free + 1 + (t.held.eraseIdx position).length = slots
    have hslots := h.slots
    rw [← hperm.length_eq, List.length_cons] at hslots
    omega
  · simp only [List.mem_append, ← hperm.mem_iff, List.mem_cons] at hd' ⊢
    tauto

/-- Everything that can happen keeps a bus sound. -/
theorem apply (h : Sound capacity slots acts t) (ha : a.apply t = some t') : Sound capacity slots (acts ++ [a]) t' := by
  cases a with
  | subscribe interest fails =>
    obtain rfl := Option.some.inj ha
    exact h.join rfl rfl
  | unsubscribe id =>
    obtain rfl := Option.some.inj ha
    exact h.leave.silent rfl rfl
  | publish time e => exact h.publish ha
  | wait type flow? execution? =>
    obtain rfl := Option.some.inj ha
    exact h.join rfl rfl
  | expire id =>
    obtain ⟨-, -, -, rfl⟩ := expire_eq_some ha
    exact h.setHandler.silent rfl rfl
  | resume id =>
    obtain ⟨-, -, -, -, rfl⟩ := resume_eq_some ha
    exact h.setHandler.leave.silent rfl rfl
  | begin position => exact (h.begin ha).silent rfl rfl
  | call position => exact (h.call ha).silent rfl rfl

end Sound

/-- When something is under way, a delivery can take a slot or call its handler. -/
theorem Sound.delivers (h : Sound capacity slots acts t) (hslots : 0 < slots) (ht : t.isQuiet = false) :
    ∃ (a : Act) (t' : Traffic), a.delivers = true ∧ a.apply t = some t' := by
  cases hheld : t.held with
  -- A delivery that holds a slot has a handler to call; when there is none, all slots are free.
  | cons d ds =>
    have hd : d.subscription ∈ t.ids := h.addressed d (by simp [hheld])
    have hfirst : t.held[0]? = some d := by rw [hheld]; rfl
    obtain ⟨t', ht'⟩ := Option.isSome_iff_exists.1 (isSome_call hfirst (h.handled _ hd))
    exact ⟨.call 0, t', rfl, ht'⟩
  | nil =>
    obtain ⟨d, ds, hqueued⟩ : ∃ d ds, t.queued = d :: ds := by
      refine List.exists_cons_of_ne_nil fun hqueued => ?_
      simp [isQuiet, hheld, hqueued] at ht
    have hfree : 0 < t.free := by
      have hall : t.free + t.held.length = slots := h.slots
      rw [hheld, List.length_nil, Nat.add_zero] at hall
      rwa [hall]
    have hfirst : t.queued[0]? = some d := by rw [hqueued]; rfl
    obtain ⟨t', ht'⟩ := Option.isSome_iff_exists.1 (isSome_begin hfirst hfree)
    exact ⟨.begin 0, t', rfl, ht'⟩

/-- What a delivery does is not left to do any more. -/
theorem work_lt_work (hdelivers : a.delivers = true) (ha : a.apply t = some t') : t'.work < t.work := by
  cases a with
  | begin position =>
    obtain ⟨d, hd, -, rfl⟩ := begin_eq_some ha
    have hlength := (cons_eraseIdx_perm hd).length_eq
    simp only [work, List.length_append, List.length_cons, List.length_nil] at hlength ⊢
    omega
  | call position =>
    obtain ⟨d, handler, hd, -, rfl⟩ := call_eq_some ha
    have hlength := (cons_eraseIdx_perm hd).length_eq
    show 2 * t.queued.length + (t.held.eraseIdx position).length < 2 * t.queued.length + t.held.length
    rw [← hlength, List.length_cons]
    omega
  | _ => cases hdelivers

theorem sound_after (h : (start capacity slots).after acts = some t) : Sound capacity slots acts t := by
  induction acts using List.reverseRecOn generalizing t with
  | nil =>
    obtain rfl := Option.some.inj h
    exact sound_start
  | append_singleton acts a ih =>
    obtain ⟨s, hs, ha⟩ := after_concat.1 h
    exact (ih hs).apply ha

end

/-! ### Errors of handlers -/

/-- A handler that raises no errors. -/
def Handler.calm : Handler → Handler
  | .recorder _ => .recorder fun _ => false
  | .waiter w => .waiter w

/-- The same happens, with a handler that raises no errors. -/
def Act.calm : Act → Act
  | .subscribe interest _ => .subscribe interest fun _ => false
  | a => a

/-- A bus whose handlers raise no errors, and have not raised any. -/
def calm (t : Traffic) : Traffic :=
  { t with handlers := fun id => (t.handlers id).map Handler.calm, errors := [] }

section

variable {t : Traffic} {id : String} {handler : Handler} {position : Nat} {acts : List Act}

theorem put_calm : (fun id' => (Table.put t.handlers id (some handler) id').map Handler.calm) =
    Table.put (fun id' => (t.handlers id').map Handler.calm) id (some handler.calm) := by
  funext id'
  by_cases h : id' = id <;> simp [h]

theorem calm_setHandler : (t.setHandler id handler).calm = t.calm.setHandler id handler.calm := by
  rw [calm, setHandler, put_calm]
  rfl

theorem calm_leave : (t.leave id).calm = t.calm.leave id :=
  rfl

theorem calm_join {interest : Interest} : (t.join interest handler).calm = t.calm.join interest handler.calm := by
  rw [calm, join, put_calm]
  rfl

theorem wait?_calm : t.calm.wait? id = t.wait? id := by
  show ((t.handlers id).map Handler.calm).bind (·.wait?) = (t.handlers id).bind (·.wait?)
  rcases t.handlers id with _ | _ | _ <;> rfl

theorem calm_receive {e : Event} : (handler.receive e).calm = handler.calm.receive e := by
  cases handler <;> rfl

theorem raises_calm {e : Event} : handler.calm.raises e = false := by
  cases handler <;> rfl

/-- What happens does not depend on the errors of handlers. -/
theorem apply_calm (a : Act) : a.calm.apply t.calm = (a.apply t).map calm := by
  cases a with
  | subscribe interest fails =>
    show _ = some (t.join interest (.recorder fails)).calm
    rw [calm_join]
    rfl
  | unsubscribe id => rfl
  | publish time e =>
    show t.calm.publish time e = (t.publish time e).map calm
    unfold publish
    rw [show t.calm.isQuiet = t.isQuiet from rfl]
    cases t.isQuiet <;> rfl
  | wait type flow? execution? =>
    show _ = some (t.join (waitingFor type flow? execution?) (.waiter .awaited)).calm
    rw [calm_join]
    rfl
  | expire id =>
    show t.calm.expire id = (t.expire id).map calm
    rw [expire, wait?_calm, expire]
    rcases t.wait? id with _ | w
    · rfl
    · cases hcan : w.canExpire with
      | true => simp [hcan, calm_setHandler, Handler.calm]
      | false => simp [hcan]
  | resume id =>
    show t.calm.resume id = (t.resume id).map calm
    rw [resume, wait?_calm, resume]
    rcases t.wait? id with _ | w
    · rfl
    · rcases hresult : w.outcome? with _ | result?
      · simp [hresult]
      · simp [hresult, calm_leave, calm_setHandler, Handler.calm]
  | begin position =>
    show t.calm.begin position = (t.begin position).map calm
    rw [begin, begin]
    show (t.queued[position]?.bind _) = (t.queued[position]?.bind _).map calm
    rcases t.queued[position]? with _ | d
    · rfl
    · by_cases hfree : t.free = 0
      · simp [hfree, calm]
      · simp [hfree, calm]
  | call position =>
    show t.calm.call position = (t.call position).map calm
    rw [call, call]
    show (t.held[position]?.bind _) = (t.held[position]?.bind _).map calm
    rcases t.held[position]? with _ | d
    · rfl
    · show ((t.handlers d.subscription).map Handler.calm).bind _ = _
      rcases hhandler : t.handlers d.subscription with _ | handler
      · simp [hhandler]
      · simp [hhandler, calm, setHandler, put_calm, calm_receive, raises_calm]

/-- What has happened does not depend on the errors of handlers. -/
theorem after_calm : t.calm.after (acts.map Act.calm) = (t.after acts).map calm := by
  induction acts generalizing t with
  | nil => rfl
  | cons a acts ih =>
    rw [List.map_cons, after, List.foldlM_cons, apply_calm, after, List.foldlM_cons]
    cases a.apply t with
    | none => rfl
    | some t' => exact ih

end

end Traffic

end IntegrationFlow
