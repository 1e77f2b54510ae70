import IntegrationFlow.Proofs.Event.Traffic

/-!
# Who hears of what

Whatever happens on a bus, a subscriber is called with exactly the events that it wants and that are published between its
subscription and its end, once each and in order (`Tracks`), and a waiter goes on with the first of them (`Waits`).
Everything that can happen keeps both, so every bus does what it owes (`faithful_of_after`).
-/

namespace IntegrationFlow

namespace Traffic

/-! ### One subscription -/

/-- What becomes of a subscription while several things happen after it was made: it is there until it ends, its handler
is called with what is published till then and is wanted, and no more than one event is on the way to it. -/
structure Tracks (s : Subscription) (later : List Act) (t : Traffic) : Prop where
  number_le : s.number ≤ t.bus.made
  live : t.bus.subscriptions.filter (·.id == s.id) = if ended s.id later then [] else [s]
  account : t.received s.id ++ t.underway s.id = (heard s.id later).filter (s.interest.accepts ·)
  single : (t.underway s.id).length ≤ 1

section

variable {capacity slots : Nat} {acts later : List Act} {a : Act} {s : Subscription} {t t' : Traffic}
  {interest : Interest} {handler : Handler}

/-- Nothing has been delivered to a subscription before it was made. -/
theorem eventsFor_new {ds : List Delivery} (h : Sound capacity slots acts t)
    (hds : ∀ d ∈ ds, d.subscription ∈ t.ids) : eventsFor (Subscription.idOf (t.bus.made + 1)) ds = [] :=
  eventsFor_eq_nil fun d hd hid => h.idOf_notMem (hid ▸ hds d hd)

theorem received_join (h : Sound capacity slots acts t) :
    (t.join interest handler).received (Subscription.idOf (t.bus.made + 1)) = [] :=
  eventsFor_new h fun d hd => h.addressed d (List.mem_append_left _ hd)

theorem underway_join (h : Sound capacity slots acts t) :
    (t.join interest handler).underway (Subscription.idOf (t.bus.made + 1)) = [] :=
  eventsFor_new h fun d hd => h.addressed d (List.mem_append_right _ hd)

/-- The subscription that is made is a new one. -/
theorem tracks_join (h : Sound capacity slots acts t) :
    Tracks ⟨t.bus.made + 1, interest⟩ [] (t.join interest handler) := by
  have hothers : t.bus.subscriptions.filter (·.id == Subscription.idOf (t.bus.made + 1)) = [] := by
    rw [List.filter_eq_nil_iff]
    intro s hs hid
    exact h.idOf_notMem (beq_iff_eq.1 hid ▸ h.subscribed s hs)
  refine ⟨Nat.le_refl _, ?_, ?_, ?_⟩
  · show (t.bus.subscriptions ++ [(⟨t.bus.made + 1, interest⟩ : Subscription)]).filter
        (·.id == Subscription.idOf (t.bus.made + 1)) = _
    rw [List.filter_append, hothers]
    simp [Subscription.id, ended]
  · show received _ (Subscription.idOf _) ++ underway _ (Subscription.idOf _) = _
    rw [received_join h, underway_join h]
    rfl
  · show (underway _ (Subscription.idOf _)).length ≤ 1
    rw [underway_join h]
    exact Nat.zero_le _

namespace Tracks

/-- What ends another subscription, if any, and publishes nothing is without effect on this one. -/
theorem silent (h : Tracks s later t) (hends : a.ends s.id = false) (hpublished : a.published? = none) :
    Tracks s (later ++ [a]) t :=
  { h with
    live := by
      rw [ended_concat, hends, Bool.or_false]
      exact h.live
    account := by
      rw [heard_concat_of_none hpublished]
      exact h.account }

/-- The id of a subscription is not given again. -/
theorem id_ne (h : Tracks s later t) : s.id ≠ Subscription.idOf (t.bus.made + 1) := by
  intro hid
  have hnumber := Subscription.idOf_inj.1 hid
  have hle := h.number_le
  omega

theorem join (h : Tracks s later t) : Tracks s later (t.join interest handler) :=
  { h with
    number_le := Nat.le_succ_of_le h.number_le
    live := by
      have hother : (Subscription.idOf (t.bus.made + 1) == s.id) = false := beq_eq_false_iff_ne.2 h.id_ne.symm
      show (t.bus.subscriptions ++ [(⟨t.bus.made + 1, interest⟩ : Subscription)]).filter (·.id == s.id) = _
      rw [List.filter_append, h.live]
      simpa [Subscription.id] using hother }

/-- A subscription ends, this one or another. -/
theorem leave {id : String} (h : Tracks s later t) (hends : a.ends s.id = (id == s.id)) (hpublished : a.published? = none) :
    Tracks s (later ++ [a]) (t.leave id) := by
  have haccount : t.received s.id ++ t.underway s.id = (heard s.id (later ++ [a])).filter (s.interest.accepts ·) := by
    rw [heard_concat_of_none hpublished]
    exact h.account
  refine ⟨h.number_le, ?_, haccount, h.single⟩
  show (t.bus.subscriptions.filter (·.id != id)).filter (·.id == s.id) = _
  rw [List.filter_filter, ended_concat, hends]
  by_cases hid : id = s.id
  · simp [hid]
  · have hkeep : t.bus.subscriptions.filter (fun s' => s'.id == s.id && s'.id != id) =
        t.bus.subscriptions.filter (·.id == s.id) := by
      refine List.filter_congr fun s' _ => ?_
      by_cases hs' : s'.id = s.id
      · simp [hs', Ne.symm hid]
      · simp [hs']
    rw [hkeep, h.live, beq_eq_false_iff_ne.2 hid, Bool.or_false]

/-- An event is published. It is on the way to the subscription if this has not ended, and wants it. -/
theorem publish {time : Time.Timestamp} {e : Event} (h : Tracks s later t) (ht' : t.publish time e = some t') :
    Tracks s (later ++ [.publish time e]) t' := by
  obtain ⟨hqueued, hheld, rfl⟩ := publish_eq_some ht'
  have hunderway : eventsFor s.id (t.held ++ (t.bus.publish time e).2) =
      (if ended s.id later then [] else [e]).filter (s.interest.accepts ·) := by
    rw [hheld, List.nil_append, eventsFor_publish, h.live]
    cases ended s.id later with
    | true => rfl
    | false => cases haccepts : s.interest.accepts e <;> simp [haccepts]
  -- Nothing else is under way while an event is published, so what was heard before has been received.
  have haccount : t.received s.id = (heard s.id later).filter (s.interest.accepts ·) := by
    rw [← h.account, underway, hqueued, hheld]
    exact (List.append_nil _).symm
  refine ⟨h.number_le, ?_, ?_, ?_⟩
  · have hends : (Act.publish time e).ends s.id = false := rfl
    rw [ended_concat, hends, Bool.or_false]
    exact h.live
  · show t.received s.id ++ eventsFor s.id (t.held ++ (t.bus.publish time e).2) = _
    rw [hunderway, haccount, heard_concat, List.filter_append]
    rfl
  · show (eventsFor s.id (t.held ++ (t.bus.publish time e).2)).length ≤ 1
    rw [hunderway]
    refine Nat.le_trans (List.length_filter_le _ _) ?_
    split <;> simp

theorem begin {position : Nat} (h : Tracks s later t) (ht' : t.begin position = some t') : Tracks s later t' := by
  obtain ⟨d, hd, -, rfl⟩ := begin_eq_some ht'
  have hperm : ((t.held ++ [d]) ++ t.queued.eraseIdx position).Perm (t.held ++ t.queued) := by
    rw [List.append_assoc]
    exact (cons_eraseIdx_perm hd).append_left _
  -- Any delivery may be next to take a slot. No two of them are for this subscription, so its events keep their order.
  have hunderway : eventsFor s.id ((t.held ++ [d]) ++ t.queued.eraseIdx position) = t.underway s.id :=
    eventsFor_of_perm hperm h.single
  refine ⟨h.number_le, h.live, (congrArg (t.received s.id ++ ·) hunderway).trans h.account, ?_⟩
  exact Nat.le_trans (Nat.le_of_eq (congrArg List.length hunderway)) h.single

theorem call {position : Nat} (h : Tracks s later t) (ht' : t.call position = some t') : Tracks s later t' := by
  obtain ⟨d, handler, hd, -, rfl⟩ := call_eq_some ht'
  have hunderway : eventsFor s.id [d] ++ eventsFor s.id (t.held.eraseIdx position ++ t.queued) = t.underway s.id := by
    rw [← eventsFor_append]
    exact eventsFor_of_perm ((cons_eraseIdx_perm hd).append_right _) h.single
  refine ⟨h.number_le, h.live, ?_, ?_⟩
  · show eventsFor s.id (t.calls ++ [d]) ++ eventsFor s.id (t.held.eraseIdx position ++ t.queued) = _
    rw [eventsFor_append, List.append_assoc, hunderway]
    exact h.account
  · have hsingle := h.single
    rw [← hunderway, List.length_append] at hsingle
    exact Nat.le_trans (Nat.le_add_left _ _) hsingle

/-- Everything that can happen keeps track of a subscription. -/
theorem apply (h : Tracks s later t) (ha : a.apply t = some t') : Tracks s (later ++ [a]) t' := by
  cases a with
  | subscribe interest fails =>
    obtain rfl := Option.some.inj ha
    exact h.join.silent rfl rfl
  | unsubscribe id =>
    obtain rfl := Option.some.inj ha
    exact h.leave rfl rfl
  | publish time e => exact h.publish ha
  | wait type flow? execution? =>
    obtain rfl := Option.some.inj ha
    exact h.join.silent rfl rfl
  | expire id =>
    obtain ⟨-, -, -, rfl⟩ := expire_eq_some ha
    have hsilent : Tracks s (later ++ [.expire id]) t := h.silent rfl rfl
    exact { hsilent with }
  | resume id =>
    obtain ⟨-, result?, -, -, rfl⟩ := resume_eq_some ha
    have hleave : Tracks s (later ++ [.resume id]) (t.leave id) := h.leave rfl rfl
    exact { hleave with }
  | begin position => exact (h.begin ha).silent rfl rfl
  | call position => exact (h.call ha).silent rfl rfl

/-- A subscription is kept track of whatever happens. -/
theorem after (h : Tracks s [] t) (ht' : t.after later = some t') : Tracks s later t' := by
  induction later using List.reverseRecOn generalizing t' with
  | nil =>
    obtain rfl := Option.some.inj ht'
    exact h
  | append_singleton later a ih =>
    obtain ⟨t₁, ht₁, ha⟩ := after_concat.1 ht'
    exact (ih ht₁).apply ha

end Tracks

end

/-! ### One wait -/

/-- How far a wait is, by the events that its handler was called with and by what has happened since it began. -/
def Wait.Fits (id : String) (later : List Act) (events : List Event) : Wait → Prop
  | .awaited => events = []
  | .arrived e => events.head? = some e
  | .expired => .expire id ∈ later
  | .finished (some e) => events.head? = some e ∧ .resume id ∈ later
  | .finished none => .expire id ∈ later ∧ .resume id ∈ later

/-- What becomes of a wait while several things happen after it began. -/
def Waits (id : String) (later : List Act) (t : Traffic) : Prop :=
  ∃ w, t.wait? id = some w ∧ w.Fits id later (t.received id)

section

variable {capacity slots : Nat} {acts later : List Act} {a : Act} {id id' : String} {events : List Event} {w : Wait}
  {t t' : Traffic} {interest : Interest} {handler : Handler}

theorem wait?_setHandler_self : (t.setHandler id handler).wait? id = handler.wait? := by
  show (Table.put t.handlers id (some handler) id).bind (·.wait?) = _
  rw [Table.put_self]
  rfl

theorem wait?_setHandler_of_ne (h : id ≠ id') : (t.setHandler id' handler).wait? id = t.wait? id := by
  show (Table.put t.handlers id' (some handler) id).bind (·.wait?) = _
  rw [Table.put_of_ne h]
  rfl

theorem wait?_join_self : (t.join interest handler).wait? (Subscription.idOf (t.bus.made + 1)) = handler.wait? :=
  wait?_setHandler_self

theorem wait?_join_of_ne (h : id ≠ Subscription.idOf (t.bus.made + 1)) : (t.join interest handler).wait? id = t.wait? id :=
  wait?_setHandler_of_ne h

namespace Wait

theorem Fits.concat (h : w.Fits id later events) : w.Fits id (later ++ [a]) events := by
  cases w with
  | awaited => exact h
  | arrived e => exact h
  | expired => exact List.mem_append_left _ h
  | finished result? =>
    cases result? with
    | none => exact h.imp (List.mem_append_left _) (List.mem_append_left _)
    | some e => exact h.imp_right (List.mem_append_left _)

/-- The first event is kept. -/
theorem Fits.receive {e : Event} (h : w.Fits id later events) : (w.receive e).Fits id later (events ++ [e]) := by
  have hhead {e' : Event} (h : events.head? = some e') : (events ++ [e]).head? = some e' := by
    rw [List.head?_append, h, Option.some_or]
  cases w with
  | awaited =>
    obtain rfl : events = [] := h
    rfl
  | arrived e' => exact hhead h
  | expired => exact h
  | finished result? =>
    cases result? with
    | none => exact h
    | some e' => exact h.imp_left hhead

/-- A waiter goes on with the first event, or because the time limit has run out. -/
theorem Fits.resume {result? : Option Event} (h : w.Fits id later events) (hw : w.outcome? = some result?) :
    (Wait.finished result?).Fits id (later ++ [.resume id]) events := by
  have hlast : Act.resume id ∈ later ++ [.resume id] := List.mem_append_right _ (List.mem_singleton_self _)
  cases w with
  | awaited => cases hw
  | arrived e =>
    obtain rfl := Option.some.inj hw
    exact ⟨h, hlast⟩
  | expired =>
    obtain rfl := Option.some.inj hw
    exact ⟨List.mem_append_left _ h, hlast⟩
  | finished => cases hw

end Wait

/-- A wait begins. -/
theorem waits_join (h : Sound capacity slots acts t) :
    Waits (Subscription.idOf (t.bus.made + 1)) [] (t.join interest (.waiter .awaited)) := by
  refine ⟨.awaited, wait?_join_self, ?_⟩
  exact received_join h

namespace Waits

theorem silent (h : Waits id later t) : Waits id (later ++ [a]) t := by
  obtain ⟨w, hw, hfits⟩ := h
  exact ⟨w, hw, hfits.concat⟩

theorem join (h : Waits id later t) (hid : id ≠ Subscription.idOf (t.bus.made + 1)) :
    Waits id later (t.join interest handler) := by
  obtain ⟨w, hw, hfits⟩ := h
  exact ⟨w, (wait?_join_of_ne hid).trans hw, hfits⟩

theorem setHandler_of_ne (h : Waits id later t) (hid : id ≠ id') : Waits id later (t.setHandler id' handler) := by
  obtain ⟨w, hw, hfits⟩ := h
  exact ⟨w, (wait?_setHandler_of_ne hid).trans hw, hfits⟩

theorem expire (h : Waits id later t) (ht' : t.expire id' = some t') : Waits id (later ++ [.expire id']) t' := by
  obtain ⟨-, -, -, rfl⟩ := expire_eq_some ht'
  by_cases hid : id = id'
  · subst hid
    exact ⟨.expired, wait?_setHandler_self, List.mem_append_right _ (List.mem_singleton_self _)⟩
  · exact (h.setHandler_of_ne hid).silent

theorem resume (h : Waits id later t) (ht' : t.resume id' = some t') : Waits id (later ++ [.resume id']) t' := by
  obtain ⟨w', result?, hw', hresult, rfl⟩ := resume_eq_some ht'
  by_cases hid : id = id'
  · subst hid
    obtain ⟨w, hw, hfits⟩ := h
    obtain rfl := Option.some.inj (hw.symm.trans hw')
    exact ⟨.finished result?, wait?_setHandler_self, hfits.resume hresult⟩
  · exact (h.setHandler_of_ne hid).silent

theorem call {position : Nat} (h : Waits id later t) (ht' : t.call position = some t') : Waits id later t' := by
  obtain ⟨d, handler, -, hhandler, rfl⟩ := call_eq_some ht'
  obtain ⟨w, hw, hfits⟩ := h
  by_cases hid : id = d.subscription
  · subst hid
    cases handler with
    | recorder fails => cases (congrArg (·.bind (·.wait?)) hhandler).symm.trans hw
    | waiter w' =>
      obtain rfl : w' = w := Option.some.inj ((congrArg (·.bind (·.wait?)) hhandler).symm.trans hw)
      refine ⟨w'.receive d.event, wait?_setHandler_self, ?_⟩
      show (w'.receive d.event).Fits _ _ (eventsFor d.subscription (t.calls ++ [d]))
      rw [eventsFor_append, eventsFor_singleton, if_pos rfl]
      exact hfits.receive
  · refine ⟨w, (wait?_setHandler_of_ne hid).trans hw, ?_⟩
    show w.Fits _ _ (eventsFor id (t.calls ++ [d]))
    rw [eventsFor_append, eventsFor_singleton, if_neg (Ne.symm hid), List.append_nil]
    exact hfits

/-- Everything that can happen keeps a wait fit. -/
theorem apply (h : Waits id later t) (hid : id ≠ Subscription.idOf (t.bus.made + 1)) (ha : a.apply t = some t') :
    Waits id (later ++ [a]) t' := by
  cases a with
  | subscribe interest fails =>
    obtain rfl := Option.some.inj ha
    exact (h.join hid).silent
  | unsubscribe id =>
    obtain rfl := Option.some.inj ha
    exact h.silent
  | publish time e =>
    obtain ⟨-, -, rfl⟩ := publish_eq_some ha
    exact h.silent
  | wait type flow? execution? =>
    obtain rfl := Option.some.inj ha
    exact (h.join hid).silent
  | expire id => exact h.expire ha
  | resume id => exact h.resume ha
  | begin position =>
    obtain ⟨-, -, -, rfl⟩ := begin_eq_some ha
    exact h.silent
  | call position => exact (h.call ha).silent

/-- A wait stays fit whatever happens. -/
theorem after {s : Subscription} (hs : Tracks s [] t) (hid : s.id = id) (h : Waits id [] t)
    (ht' : t.after later = some t') : Waits id later t' := by
  induction later using List.reverseRecOn generalizing t' with
  | nil =>
    obtain rfl := Option.some.inj ht'
    exact h
  | append_singleton later a ih =>
    obtain ⟨t₁, ht₁, ha⟩ := after_concat.1 ht'
    -- Subscriptions that are made meanwhile have other ids, so they do not replace the waiter.
    exact (ih ht₁).apply (hid ▸ (hs.after ht₁).id_ne) ha

end Waits

end

/-! ### What a bus owes -/

/-- A subscription is made by one of the things that happen, and has an id; the others come later. -/
def Makes (acts : List Act) (t : Traffic) (id : String) (a : Act) (later : List Act) : Prop :=
  ∃ before, acts = before ++ a :: later ∧ a.interest?.isSome ∧ t.ids[made before]? = some id

/-- What is owed to someone who has begun to wait. -/
structure Wait.Answers (interest : Interest) (id : String) (later : List Act) (t : Traffic) (w : Wait) : Prop where
  /-- An event that the waiter gets is the first one that is wanted and published since. -/
  first : ∀ e, w = .arrived e ∨ w = .finished (some e) →
    ((published later).map (·.event)).find? (interest.Wants ·) = some e
  /-- There is no event for the waiter only if the time limit has run out. -/
  late : w = .expired ∨ w = .finished none → .expire id ∈ later
  /-- Someone who waits still has not missed anything. -/
  awaited : w = .awaited → t.isQuiet = true → ∀ e ∈ heard id later, ¬ interest.Wants e
  /-- A waiter who has an event, or has waited long enough, can go on. -/
  goesOn : ∀ result?, w.outcome? = some result? → ∃ t', t.resume id = some t' ∧ t'.wait? id = some (.finished result?)
  /-- No subscription is left behind. -/
  finished : ∀ result?, w = .finished result? → t.bus.isSubscribed id = false

/-- What a bus owes to its subscribers, to those who wait, and to those who ask for its history. -/
structure Faithful (capacity : Nat) (acts : List Act) (t : Traffic) : Prop where
  /-- Every subscription has an id of its own. -/
  ids : t.ids.length = made acts ∧ t.ids.Nodup
  /-- A subscription is there until it ends. -/
  subscribed : ∀ {id a later}, Makes acts t id a later → t.bus.isSubscribed id = !ended id later
  /-- What is wanted and published till then has been received, or is on its way; nothing else is. -/
  account : ∀ {id a later interest}, Makes acts t id a later → a.interest? = some interest →
    t.received id ++ t.underway id = (heard id later).filter (interest.Wants ·)
  /-- When nothing is under way, it has been received. -/
  received : ∀ {id a later interest}, Makes acts t id a later → a.interest? = some interest → t.isQuiet = true →
    t.received id = (heard id later).filter (interest.Wants ·)
  waits : ∀ {id type flow? execution? later}, Makes acts t id (.wait type flow? execution?) later →
    ∃ w, t.wait? id = some w ∧ w.Answers (waitingFor type flow? execution?) id later t
  /-- The history is asked for what was published last. -/
  query : ∀ type? flow? execution? limit, t.bus.query type? flow? execution? (some limit) =
    ((window capacity acts).filter (·.Asked type? flow? execution?)).take limit
  /-- The same events are counted. -/
  events : t.bus.stats.events = (window capacity acts).length
  byType : ∀ type n, (type, n) ∈ t.bus.stats.byType ↔
    n = (window capacity acts).countP (·.event.type == type) ∧ 0 < n
  /-- As long as something is under way, a delivery can go on; and it cannot do so for ever. -/
  delivers : t.isQuiet = false → ∃ (a : Act) (t' : Traffic), a.delivers = true ∧ a.apply t = some t'
  lessens : ∀ {a : Act} {t' : Traffic}, a.delivers = true → a.apply t = some t' → t'.work < t.work

section

variable {capacity slots : Nat} {acts later : List Act} {a : Act} {t : Traffic} {id : String} {interest : Interest}

/-- The bus at the time at which a subscription was made, and the id that it got. -/
theorem Makes.exists_before (hmakes : Makes acts t id a later) (h : (start capacity slots).after acts = some t) :
    ∃ (before : List Act) (t₀ t₁ : Traffic), Sound capacity slots before t₀ ∧
      id = Subscription.idOf (t₀.bus.made + 1) ∧ a.apply t₀ = some t₁ ∧ t₁.after later = some t := by
  have hids := (sound_after h).ids
  obtain ⟨before, rfl, -, hid⟩ := hmakes
  rw [after, List.foldlM_append] at h
  obtain ⟨t₀, ht₀, h⟩ := Option.bind_eq_some_iff.1 h
  rw [List.foldlM_cons] at h
  obtain ⟨t₁, ht₁, h⟩ := Option.bind_eq_some_iff.1 h
  have hsound := sound_after ht₀
  refine ⟨before, t₀, t₁, hsound, ?_, ht₁, h⟩
  rw [hids, List.getElem?_map] at hid
  obtain ⟨n, hn, rfl⟩ := Option.map_eq_some_iff.1 hid
  obtain ⟨hlt, rfl⟩ := List.getElem?_eq_some_iff.1 hn
  rw [List.getElem_range', hsound.made, Nat.one_mul, Nat.add_comm]

theorem Makes.isSome (hmakes : Makes acts t id a later) : a.interest?.isSome = true := by
  obtain ⟨-, -, hisSome, -⟩ := hmakes
  exact hisSome

theorem Makes.tracks (hmakes : Makes acts t id a later) (h : (start capacity slots).after acts = some t)
    (hinterest : a.interest? = some interest) :
    ∃ s : Subscription, s.id = id ∧ s.interest = interest ∧ Tracks s later t := by
  obtain ⟨before, t₀, t₁, hsound, rfl, ht₁, ht⟩ := hmakes.exists_before h
  refine ⟨⟨t₀.bus.made + 1, interest⟩, rfl, rfl, Tracks.after ?_ ht⟩
  cases a with
  | subscribe i fails =>
    obtain rfl := Option.some.inj hinterest
    obtain rfl := Option.some.inj ht₁
    exact tracks_join hsound
  | wait type flow? execution? =>
    obtain rfl := Option.some.inj hinterest
    obtain rfl := Option.some.inj ht₁
    exact tracks_join hsound
  | _ => cases hinterest

theorem Makes.waits {type : EventType} {flow? execution? : Option String}
    (hmakes : Makes acts t id (.wait type flow? execution?) later) (h : (start capacity slots).after acts = some t) :
    Waits id later t := by
  obtain ⟨before, t₀, t₁, hsound, rfl, ht₁, ht⟩ := hmakes.exists_before h
  obtain rfl := Option.some.inj ht₁
  exact Waits.after (tracks_join hsound) rfl (waits_join hsound) ht

/-! ### What a subscription comes to -/

theorem filter_accepts {events : List Event} : events.filter (interest.accepts ·) = events.filter (interest.Wants ·) :=
  List.filter_congr fun _ _ => Bool.eq_iff_iff.2 (Interest.accepts_iff.trans decide_eq_true_iff.symm)

theorem underway_of_isQuiet (h : t.isQuiet = true) : t.underway id = [] := by
  obtain ⟨hqueued, hheld⟩ := isQuiet_iff.1 h
  rw [underway, hqueued, hheld]
  rfl

namespace Tracks

variable {s : Subscription}

theorem isSubscribed (h : Tracks s later t) : t.bus.isSubscribed s.id = !ended s.id later := by
  have hlive := h.live
  cases hended : ended s.id later with
  | true =>
    rw [if_pos hended, List.filter_eq_nil_iff] at hlive
    exact List.any_eq_false.2 hlive
  | false =>
    rw [if_neg (Bool.eq_false_iff.1 hended)] at hlive
    have hmem : s ∈ t.bus.subscriptions := List.mem_of_mem_filter (hlive ▸ List.mem_singleton_self s)
    exact List.any_eq_true.2 ⟨s, hmem, beq_self_eq_true _⟩

theorem received_eq (h : Tracks s later t) (hquiet : t.isQuiet = true) :
    t.received s.id = (heard s.id later).filter (s.interest.Wants ·) := by
  rw [← filter_accepts, ← h.account, underway_of_isQuiet hquiet, List.append_nil]

/-- The first event that a handler is called with is the first one that is wanted and published. -/
theorem find?_eq_some {e : Event} (h : Tracks s later t) (he : (t.received s.id).head? = some e) :
    ((published later).map (·.event)).find? (s.interest.Wants ·) = some e := by
  have hfirst : (heard s.id later).find? (s.interest.Wants ·) = some e := by
    rw [← List.head?_filter, ← filter_accepts, ← h.account, List.head?_append, he, Option.some_or]
  exact heard_prefix.find?_eq_some hfirst

end Tracks

/-- A fit wait is what is owed to someone who waits. -/
theorem Wait.Fits.answers {s : Subscription} {w : Wait} (hs : Tracks s later t) (hw : t.wait? s.id = some w)
    (h : w.Fits s.id later (t.received s.id)) : w.Answers s.interest s.id later t := by
  have hfinished (hresume : Act.resume s.id ∈ later) : t.bus.isSubscribed s.id = false := by
    rw [hs.isSubscribed, Bool.not_eq_false']
    exact List.any_eq_true.2 ⟨_, hresume, beq_self_eq_true _⟩
  refine ⟨?_, ?_, ?_, fun result? hresult => ⟨_, resume_of_outcome hw hresult, wait?_setHandler_self⟩, ?_⟩
  · rintro e (rfl | rfl)
    · exact hs.find?_eq_some h
    · exact hs.find?_eq_some h.1
  · rintro (rfl | rfl)
    · exact h
    · exact h.1
  · rintro rfl hquiet e he hwants
    have hnothing : (heard s.id later).filter (s.interest.Wants ·) = [] := (hs.received_eq hquiet).symm.trans h
    exact List.filter_eq_nil_iff.1 hnothing e he (decide_eq_true hwants)
  · rintro (_ | e) rfl
    · exact hfinished h.2
    · exact hfinished h.2

/-- Whatever has happened on a bus that has at least one slot, it has done what it owes. -/
theorem faithful_of_after (hslots : 0 < slots) (h : (start capacity slots).after acts = some t) :
    Faithful capacity acts t := by
  have hsound := sound_after h
  refine ⟨⟨?_, hsound.nodup⟩, ?_, ?_, ?_, ?_, ?_, ?_, ?_, hsound.delivers hslots, work_lt_work⟩
  · rw [hsound.ids, List.length_map, List.length_range', hsound.made]
  · intro id a later hmakes
    obtain ⟨interest, hinterest⟩ := Option.isSome_iff_exists.1 hmakes.isSome
    obtain ⟨s, rfl, -, hs⟩ := hmakes.tracks h hinterest
    exact hs.isSubscribed
  · intro id a later interest hmakes hinterest
    obtain ⟨s, rfl, rfl, hs⟩ := hmakes.tracks h hinterest
    rw [hs.account, filter_accepts]
  · intro id a later interest hmakes hinterest hquiet
    obtain ⟨s, rfl, rfl, hs⟩ := hmakes.tracks h hinterest
    exact hs.received_eq hquiet
  · intro id type flow? execution? later hmakes
    obtain ⟨s, rfl, hinterest, hs⟩ := hmakes.tracks h rfl
    obtain ⟨w, hw, hfits⟩ := hmakes.waits h
    exact ⟨w, hw, hinterest ▸ hfits.answers hs hw⟩
  · intro type? flow? execution? limit
    rw [Bus.query_some, hsound.history]
  · exact congrArg List.length hsound.history
  · intro type n
    rw [Bus.mem_byType_stats, hsound.history]

/-- Two subscribers, of which the first fails, and a waiter; the second subscriber leaves before the last event. -/
def relay : List Act :=
  let interest : Interest := { types := [.runStarted], flow? := some "orders" }
  let time : Time.Timestamp := ⟨0, some 0⟩
  [.subscribe interest fun _ => true, .subscribe interest fun _ => false, .wait .runStarted (some "returns") none,
    .publish time (.runStarted "orders" "first" .null), .begin 1, .call 0, .begin 0, .call 0,
    .publish time (.runStarted "returns" "second" .null), .begin 0, .call 0, .resume "sub_3", .unsubscribe "sub_2",
    .publish time (.runStarted "orders" "third" .null), .begin 0, .call 0]

theorem faithful_relay : ∃ t, (start 2 1).after relay = some t ∧ Faithful 2 relay t ∧
    (t.received "sub_1").map (·.execution?) = [some "first", some "third"] ∧
    (t.received "sub_2").map (·.execution?) = [some "first"] ∧
    (t.received "sub_3").map (·.execution?) = [some "second"] := by
  have hrun : ((start 2 1).after relay).map (fun t => ["sub_1", "sub_2", "sub_3"].map fun id =>
      (t.received id).map (·.execution?)) = some [[some "first", some "third"], [some "first"], [some "second"]] := by
    decide +kernel
  obtain ⟨t, ht, hreceived⟩ := Option.map_eq_some_iff.1 hrun
  simp only [List.map_cons, List.map_nil, List.cons.injEq] at hreceived
  exact ⟨t, ht, faithful_of_after (by decide) ht, hreceived.1, hreceived.2.1, hreceived.2.2.1⟩

end

end Traffic

end IntegrationFlow
