import IntegrationFlow.Proofs.Flow.Reorder
import IntegrationFlow.Proofs.Run.Alike
import IntegrationFlow.Proofs.Run.Lockstep

/-!
# The order of the nodes

The order in which the nodes of a flow are declared decides which of the nodes that are ready is visited next. When the
nodes have nothing in common but what the edges carry, that is all it decides: the run of the flow with its nodes in
another order takes as long, ends in the same way, and has the same step for every node (`run_reorder`).

One of the two runs serves as a rehearsal of the other: whenever a node comes, it finds what it has found there, so it
adds what it has added there (`Follows`).
-/

namespace IntegrationFlow.Run

open Simulation Sim

/-! ### Shares -/

namespace Share

instance : Std.Associative fun a b : Share => a + b :=
  ⟨add_assoc⟩

instance : Std.LawfulLeftIdentity (fun a b : Share => a + b) 0 where
  left_id := zero_add

/-- What was added to get from one tally to another one. -/
def since (a b : Share) : Share :=
  ⟨b.records.drop a.records.length, b.lost.drop a.lost.length, b.time - a.time⟩

theorem since_add (a c : Share) : a.since (a + c) = c := by
  ext1 <;> simp [since]

variable {α : Type} (share : α → Share) (as : List α)

theorem records_sum : ((as.map share).sum).records = as.flatMap fun a => (share a).records := by
  induction as with
  | nil => rfl
  | cons a as ih => rw [List.map_cons, List.sum_cons, records_add, ih, List.flatMap_cons]

theorem lost_sum : ((as.map share).sum).lost = as.flatMap fun a => (share a).lost := by
  induction as with
  | nil => rfl
  | cons a as ih => rw [List.map_cons, List.sum_cons, lost_add, ih, List.flatMap_cons]

theorem time_sum : ((as.map share).sum).time = (as.map fun a => (share a).time).sum := by
  induction as with
  | nil => rfl
  | cons a as ih => rw [List.map_cons, List.sum_cons, time_add, ih, List.map_cons, List.sum_cons]

end Share

/-! ### A run that serves as a rehearsal -/

/-- The states before and after the visits of the nodes of a run. -/
structure Rehearsal where
  before : Node → State
  after : Node → State

/-- What the visit of a node has added. -/
def Rehearsal.share (r : Rehearsal) (n : Node) : Share :=
  (r.before n).tally.since (r.after n).tally

/-- Some nodes were visited, and no others, and whatever they have left is what they have left in a rehearsal. -/
structure Follows (env : Env) (r : Rehearsal) (done : List Node) (s : State) : Prop where
  running : s.cancelled = false
  signals : ∀ m ∈ done, ∀ e ∈ env.flow.outgoing m.id, s.signals.lookup e.id = (r.after m).signals.lookup e.id
  values : ∀ m ∈ done, ∀ p : Place, p.owner = m.id → s.documents.read p = (r.after m).documents.read p
  tally : s.tally = (done.map r.share).sum
  unset : ∀ e ∈ env.flow.edges, e.source ∉ done.map (·.id) → s.signals.lookup e.id = none
  empty : ∀ p : Place, p.owner ∉ done.map (·.id) → s.documents.read p = .atom .only .null
  untried : ∀ id, id ∉ done.map (·.id) → s.attemptsOf id = 0
  /-- The edges carry nothing but values of their sources. -/
  payloads : ∀ e ∈ env.flow.edges, ∀ p, (s.signals.lookup e.id).bind Signal.payload? = some p → p.owner = e.source

/-- A node sees its own values and those of the nodes from which edges lead to it. -/
def Sees (f : Flow) (n : Node) (p : Place) : Prop :=
  p.owner = n.id ∨ ∃ e ∈ f.incoming n.id, p.owner = e.source

section

variable {env : Env} (valid : env.Valid) {r : Rehearsal} {done done' : List Node} {n : Node} {s s' : State}

include valid

/-- When the same nodes were visited in front of a node, the node cannot tell two states apart. -/
theorem Follows.abreast (h : Follows env r done s) (h' : Follows env r done' s')
    (hdone : ∀ m ∈ done, m ∈ env.flow.nodes) (hdone' : ∀ m ∈ done', m ∈ env.flow.nodes)
    (hn : n.id ∉ done.map (·.id)) (hn' : n.id ∉ done'.map (·.id))
    (hsources : ∀ e ∈ env.flow.edges, e.target = n.id → (e.source ∈ done.map (·.id) ↔ e.source ∈ done'.map (·.id))) :
    Abreast env n (Sees env.flow n) s s' s s' := by
  -- A source of the node was visited in both runs or in neither, and its visits have left the same.
  have hcommon {e : Edge} (he : e ∈ env.flow.edges) (ht : e.target = n.id) :
      (∃ m ∈ done, m ∈ done' ∧ m.id = e.source) ∨ e.source ∉ done.map (·.id) ∧ e.source ∉ done'.map (·.id) := by
    by_cases hmem : e.source ∈ done.map (·.id)
    · obtain ⟨m, hm, hid⟩ := List.mem_map.1 hmem
      obtain ⟨m', hm', hid'⟩ := List.mem_map.1 ((hsources e he ht).1 hmem)
      obtain rfl : m = m' := valid.flow.eq_of_id_eq (hdone m hm) (hdone' m' hm') (hid.trans hid'.symm)
      exact .inl ⟨m, hm, hm', hid⟩
    · exact .inr ⟨hmem, mt (hsources e he ht).2 hmem⟩
  refine ⟨h.running, h'.running, fun e he hat => ?_, fun e he ht p hp => ?_, fun p hp => ?_, ?_, 0, by simp, by simp⟩
  · rcases hat with hs | ht
    · rw [h.unset e he (hs ▸ hn), h'.unset e he (hs ▸ hn')]
    · rcases hcommon he ht with ⟨m, hm, hm', hid⟩ | ⟨hnot, hnot'⟩
      · have hout : e ∈ env.flow.outgoing m.id := Flow.mem_outgoing.2 ⟨he, hid.symm⟩
        rw [h.signals m hm e hout, h'.signals m hm' e hout]
      · rw [h.unset e he hnot, h'.unset e he hnot']
  · exact .inr ⟨e, Flow.mem_incoming.2 ⟨he, ht⟩, h.payloads e he p hp⟩
  · rcases hp with hown | ⟨e, he, howner⟩
    · rw [h.empty p (hown ▸ hn), h'.empty p (hown ▸ hn')]
    · obtain ⟨he, ht⟩ := Flow.mem_incoming.1 he
      rcases hcommon he ht with ⟨m, hm, hm', hid⟩ | ⟨hnot, hnot'⟩
      · rw [h.values m hm p (howner.trans hid.symm), h'.values m hm' p (howner.trans hid.symm)]
      · rw [h.empty p (howner ▸ hnot), h'.empty p (howner ▸ hnot')]
  · rw [h.untried n.id hn, h'.untried n.id hn']

omit valid in
/-- An edge of a node that was visited carries a value of the node, if any. -/
theorem payload_of_visited {before after : Ledger} (hvisited : Visited env n before after) {e : Edge}
    (he : e ∈ env.flow.outgoing n.id) {p : Place}
    (hp : (after.signals.lookup e.id).bind Signal.payload? = some p) : p = .output n.id := by
  have hlive {signal : Signal} (hsignal : after.signals.lookup e.id = some signal) : signal.payload? = some p := by
    rwa [hsignal, Option.bind_some] at hp
  cases hvisited with
  | skipped x node status calm others dead rest =>
    cases hlive (dead e he)
  | carried o incoming again x emitted came invoked entered attended tells routed rest fetched tried origin =>
    obtain ⟨port, -, hsignal⟩ := routed.own e he
    have hpayload := hlive hsignal
    unfold emission at hpayload
    split at hpayload
    · unfold signalAt at hpayload
      split at hpayload
      · cases hpayload
        rfl
      · cases hpayload
        rfl
    · cases hpayload

variable (hinsulated : Insulated env.flow)

include hinsulated

/-- One more node is visited. -/
theorem Follows.concat (h : Follows env r done s) (hn : n ∈ env.flow.nodes) (hfresh : n.id ∉ done.map (·.id))
    (hvisit : visit env n s = .ok () s') (hrunning : s'.cancelled = false)
    (hsignals : ∀ e ∈ env.flow.outgoing n.id, s'.signals.lookup e.id = (r.after n).signals.lookup e.id)
    (hvalues : ∀ p : Place, p.owner = n.id → s'.documents.read p = (r.after n).documents.read p)
    (htally : s'.tally = s.tally + r.share n) : Follows env r (done ++ [n]) s' := by
  have hvisited := (meets_visit valid hn s).of_ok hvisit
  obtain ⟨rs, es, hchanges⟩ := (interruptible_visit valid hn s () s' hvisit).1
  have hother {id : String} (hid : id ∉ (done ++ [n]).map (·.id)) : id ∉ done.map (·.id) ∧ id ≠ n.id := by
    simpa using hid
  -- An insulated flow has no handler that tries again, so a visit touches no node but its own.
  have hnever : ∀ limit, ¬ TriesAgain env.flow n limit := hinsulated.handlers n hn
  refine ⟨hrunning, fun m hm e he => ?_, fun m hm p hp => ?_, ?_, fun e he hs => ?_, fun p hp => ?_, fun id hid => ?_,
    fun e he p hp => ?_⟩
  · rcases List.mem_append.1 hm with hm | hm
    · obtain ⟨hmem, hs⟩ := Flow.mem_outgoing.1 he
      have hne : e.source ≠ n.id := fun heq => hfresh (heq ▸ hs ▸ List.mem_map_of_mem hm)
      exact (hvisited.lookup_eq valid hmem hne).trans (h.signals m hm e he)
    · obtain rfl := List.mem_singleton.1 hm
      exact hsignals e he
  · rcases List.mem_append.1 hm with hm | hm
    · have hne : p.owner ∉ [n.id] := fun heq =>
        hfresh (List.mem_singleton.1 heq ▸ hp ▸ List.mem_map_of_mem hm)
      rw [hchanges.spared hinsulated.sparesSources p hne, h.values m hm p hp]
    · obtain rfl := List.mem_singleton.1 hm
      exact hvalues p hp
  · rw [htally, h.tally, List.map_append, List.sum_append]
    simp
  · obtain ⟨hs, hne⟩ := hother hs
    exact (hvisited.lookup_eq valid he hne).trans (h.unset e he hs)
  · obtain ⟨hp, hne⟩ := hother hp
    rw [hchanges.spared hinsulated.sparesSources p (by simpa using hne), h.empty p hp]
  · obtain ⟨hid, hne⟩ := hother hid
    have huntouched : Untouched id s s' := by
      refine untouched_visit valid hn (Ne.symm hne) (.inl fun incoming _ => ?_) hvisit
      rintro ⟨limit, failure, hagain, -⟩
      exact hnever limit hagain
    rw [huntouched.attempts, h.untried id hid]
  · by_cases hs : e.source = n.id
    · rw [payload_of_visited hvisited (Flow.mem_outgoing.2 ⟨he, hs⟩) hp]
      exact hs.symm
    · have hsame : s'.signals.lookup e.id = s.signals.lookup e.id := hvisited.lookup_eq valid he hs
      rw [hsame] at hp
      exact h.payloads e he p hp

variable (hcalm : ∀ moments, env.cancels moments = false)

include hcalm

/-- A node that finds what it has found in the rehearsal does what it has done there. -/
theorem Follows.visit (h : Follows env r done (r.before n)) (hvisit : visit env n (r.before n) = .ok () (r.after n))
    (h' : Follows env r done' s) (hn : n ∈ env.flow.nodes) (hdone : ∀ m ∈ done, m ∈ env.flow.nodes)
    (hdone' : ∀ m ∈ done', m ∈ env.flow.nodes) (hfresh : n.id ∉ done.map (·.id)) (hfresh' : n.id ∉ done'.map (·.id))
    (hsources : ∀ e ∈ env.flow.edges, e.target = n.id → (e.source ∈ done.map (·.id) ↔ e.source ∈ done'.map (·.id))) :
    ∃ s', visit env n s = .ok () s' ∧ Follows env r (done' ++ [n]) s' := by
  have habreast := h.abreast valid h' hdone hdone' hfresh hfresh' hsources
  obtain ⟨s', hvisit', habreast'⟩ :=
    lockstep_visit valid hinsulated hcalm hn (fun p hp => .inl hp) _ _ habreast _ _ hvisit
  obtain ⟨c, hc, hc'⟩ := habreast'.added
  have hshare : r.share n = c := by
    unfold Rehearsal.share
    rw [hc, Share.since_add]
  refine ⟨s', hvisit', h'.concat valid hinsulated hn hfresh' hvisit' habreast'.running' (fun e he => ?_)
    (fun p hp => ?_) (by rw [hc', hshare])⟩
  · obtain ⟨hmem, hs⟩ := Flow.mem_outgoing.1 he
    exact habreast'.signals e hmem (.inl hs)
  · exact habreast'.values p (.inl hp)

end

/-! ### The rehearsal -/

/-- A run over some nodes as a rehearsal. -/
def rehearsalOf (env : Env) (order : List Node) (s : State) : Rehearsal where
  before n := endState (visitAll env (order.takeWhile (·.id != n.id))) s
  after n := endState (visit env n) (endState (visitAll env (order.takeWhile (·.id != n.id))) s)

/-- In a rehearsal, a node was carried out after some others. -/
structure Rehearsed (env : Env) (r : Rehearsal) (start : String) (n : Node) (done : List Node) : Prop where
  follows : Follows env r done (r.before n)
  visited : visit env n (r.before n) = .ok () (r.after n)
  declared : ∀ m ∈ done, m ∈ env.flow.nodes
  fresh : n.id ∉ done.map (·.id)
  sources : ∀ e ∈ env.flow.edges, e.target = n.id → (e.source ∈ done.map (·.id) ↔ env.flow.Reaches start e.source)

section

variable {env : Env} {openCircuits : List String} {start : String} {done later : List Node} {n : Node} {s s₁ s₂ : State}
  {finished : Bool}

/-- The states of a rehearsal are those of the run. -/
theorem rehearsalOf_before (hfresh : n.id ∉ done.map (·.id)) (hdone : visitAll env done s = .ok true s₁) :
    (rehearsalOf env (done ++ n :: later) s).before n = s₁ := by
  have htake : (done ++ n :: later).takeWhile (·.id != n.id) = done := by
    rw [List.takeWhile_append_of_pos fun m hm => ?_, List.takeWhile_cons_of_neg (by simp), List.append_nil]
    simp only [bne_iff_ne, ne_eq]
    exact fun heq => hfresh (heq ▸ List.mem_map_of_mem hm)
  unfold rehearsalOf endState
  simp only [htake, hdone]

theorem rehearsalOf_after (hfresh : n.id ∉ done.map (·.id)) (hdone : visitAll env done s = .ok true s₁)
    (hvisit : visit env n s₁ = .ok () s₂) : (rehearsalOf env (done ++ n :: later) s).after n = s₂ := by
  change endState (visit env n) ((rehearsalOf env (done ++ n :: later) s).before n) = s₂
  rw [rehearsalOf_before hfresh hdone, endState, hvisit]

/-- When a run begins, no node was visited. -/
theorem follows_begun (hcalm : ∀ moments, env.cancels moments = false) (r : Rehearsal) :
    Follows env r [] (begun env openCircuits) := by
  obtain ⟨hledger, hclock, -⟩ := begun_eq env openCircuits
  have hsignals : (begun env openCircuits).signals = [] := congrArg Ledger.signals hledger
  have hkept : (begun env openCircuits).cancelled = false ∧ (begun env openCircuits).documents = {} := by
    unfold begun endState publish
    by_cases hobserved : env.observed = true
    · rw [if_pos hobserved]
      refine ⟨?_, rfl⟩
      exact hcalm _
    · rw [if_neg hobserved]
      exact ⟨rfl, rfl⟩
  refine ⟨hkept.1, by simp, by simp, ?_, fun e _ _ => by rw [hsignals]; rfl, fun p _ => by rw [hkept.2]; rfl,
    fun id _ => attemptsOf_begun env openCircuits id, fun e _ p hp => ?_⟩
  · exact Share.ext (congrArg Ledger.records hledger) (congrArg Ledger.unrecovered hledger) hclock
  · rw [hsignals] at hp
    cases hp

variable (valid : env.Valid) (hinsulated : Insulated env.flow) (hcalm : ∀ moments, env.cancels moments = false)
  (hstable : IsStableOrder env.flow start (done ++ later))

include valid hinsulated hcalm hstable

/-- A run follows its own rehearsal, in which its nodes were carried out. -/
theorem follows_rehearsalOf (h : visitAll env done (begun env openCircuits) = .ok true s) :
    Follows env (rehearsalOf env (done ++ later) (begun env openCircuits)) done s ∧
      ∀ n ∈ done, ∃ past, Rehearsed env (rehearsalOf env (done ++ later) (begun env openCircuits)) start n past := by
  induction done using List.reverseRecOn generalizing later s with
  | nil =>
    cases h
    exact ⟨follows_begun hcalm _, by simp⟩
  | append_singleton done n ih =>
    rw [List.append_assoc, List.singleton_append] at hstable ⊢
    obtain ⟨s₁, hdone, -, hvisit⟩ := exists_of_visitAll_concat h
    obtain ⟨hfollows, hrehearsed⟩ := ih hstable hdone
    have hn := hstable.isAvailable
    have hbefore : (rehearsalOf env (done ++ n :: later) (begun env openCircuits)).before n = s₁ :=
      rehearsalOf_before hn.fresh hdone
    have hafter : (rehearsalOf env (done ++ n :: later) (begun env openCircuits)).after n = s :=
      rehearsalOf_after hn.fresh hdone hvisit
    generalize rehearsalOf env (done ++ n :: later) (begun env openCircuits) = r at hfollows hrehearsed hbefore hafter ⊢
    subst hbefore hafter
    obtain ⟨s', hvisit', hnext⟩ := hfollows.visit valid hinsulated hcalm hvisit hfollows hn.declared hstable.declared
      hstable.declared hn.fresh hn.fresh fun _ _ _ => Iff.rfl
    cases hvisit.symm.trans hvisit'
    refine ⟨hnext, fun m hm => ?_⟩
    rcases List.mem_append.1 hm with hm | hm
    · exact hrehearsed m hm
    · obtain rfl := List.mem_singleton.1 hm
      exact ⟨done, hfollows, hvisit, hstable.declared, hn.fresh, fun e he ht => hstable.source_mem_iff he ht⟩

/-- A run that nobody can cancel visits all its nodes. -/
theorem visitAll_of_calm (h : visitAll env (done ++ later) (begun env openCircuits) = .ok finished s) :
    finished = true := by
  cases finished with
  | true => rfl
  | false =>
    obtain ⟨started, n, rest, hsplit, hafter⟩ := exists_cancelledAfter h
    rw [hsplit] at hstable
    cases hafter with
    | before hcancelled => exact absurd hcancelled (by simp [(follows_begun hcalm ⟨fun _ => s, fun _ => s⟩).running])
    | during hdone hrunning hlast hcancelled =>
      have hfollows := follows_rehearsalOf valid hinsulated hcalm hstable (visitAll_concat hdone hrunning hlast)
      exact absurd hcancelled (by simp [hfollows.1.running])

end

/-! ### Another order -/

section

variable {env : Env} (valid : env.Valid) (hinsulated : Insulated env.flow) (hcalm : ∀ moments, env.cancels moments = false)
  {ns : List Node} (hperm : ns.Perm env.flow.nodes) {r : Rehearsal} {start : String}

include valid hinsulated hcalm hperm

/-- Nodes that were all rehearsed are visited in another order. -/
theorem exists_follows_of_rehearsed
    (hall : ∀ n ∈ env.flow.nodes, env.flow.Reaches start n.id → ∃ past, Rehearsed env r start n past)
    {done later : List Node} (hstable : IsStableOrder (env.flow.reorder ns) start (done ++ later)) {s : State}
    (h : Follows env r done s) : ∃ s', visitAll env later s = .ok true s' ∧ Follows env r (done ++ later) s' := by
  induction later generalizing done s with
  | nil => exact ⟨s, rfl, by rwa [List.append_nil]⟩
  | cons n later ih =>
    have hnext := hstable.isAvailable
    have hn : n ∈ env.flow.nodes := hperm.subset hnext.declared
    obtain ⟨past, hpast⟩ := hall n hn hnext.reached
    obtain ⟨s₁, hvisit, hfollows⟩ := hpast.follows.visit valid hinsulated hcalm hpast.visited h hn hpast.declared
      (fun m hm => hperm.subset (hstable.declared m hm)) hpast.fresh hnext.fresh
      fun e he ht => (hpast.sources e he ht).trans (hstable.source_mem_iff he ht).symm
    rw [List.append_cons] at hstable ⊢
    obtain ⟨s', hrest, hend⟩ := ih hstable hfollows
    refine ⟨s', ?_, hend⟩
    rw [visitAll_of_running h.running, bind_eq_of_ok _ hvisit]
    exact hrest

omit hinsulated hcalm in
/-- The visits of a node do not depend on the order in which the nodes are declared. -/
theorem visitAll_reorder (later : List Node) (s : State) :
    visitAll (env.over (env.flow.reorder ns)) later s = visitAll env later s := by
  have hsame {as : List Node} : List.Forall₂ Node.Alike as as := List.forall₂_same.2 fun n _ => .refl n
  refine visitAll_over (p := fun _ _ => True) (fun _ _ _ _ _ _ _ _ => trivial) ?_ hsame (List.nil_append later).symm
    trivial
  intro done n rest n' s _ hn _
  refine visit_over (g := env.flow.reorder ns) hn ⟨rfl, rfl, rfl⟩ (List.forall₂_same.2 fun e _ => ⟨rfl, rfl⟩) ?_
    fun id _ => ?_
  · have hlive : liveEdges (env.flow.reorder ns) s.signals n' = liveEdges env.flow s.signals n := by
      rw [liveEdges, liveEdges, hn.id]
      rfl
    rw [hlive]
    exact List.forall₂_same.2 fun e _ => ⟨rfl, rfl, rfl, rfl⟩
  · unfold AlikeAt
    rw [Flow.node?_reorder hperm valid.flow]
    cases env.flow.node? id with
    | none => exact .inl ⟨rfl, rfl⟩
    | some m => exact .inr ⟨m, m, rfl, rfl, .refl m⟩

end

/-! ### The traces -/

/-- Two traces that differ at most in the order of their steps and in the failure that they quote. -/
structure Trace.Agrees (t t' : Trace) : Prop where
  flow : t'.flow = t.flow
  execution : t'.execution = t.execution
  status : t'.status = t.status
  duration : t'.duration = t.duration
  steps : t'.steps.Perm t.steps
  stepsOf : ∀ id, t'.stepsOf id = t.stepsOf id
  error : t'.error?.isSome = t.error?.isSome
  fault : t'.fault? = t.fault?

/-- Of lists with the same items, of which no two have a key in common, those with one key are the same. -/
theorem filter_eq_of_perm {α : Type} {key : α → String} {as bs : List α} (h : as.Perm bs) (hnodup : (bs.map key).Nodup)
    (k : String) : as.filter (key · == k) = bs.filter (key · == k) := by
  have hfilter := h.filter fun a => key a == k
  have hkeys : (bs.filter (key · == k)).map key = List.replicate (bs.filter (key · == k)).length k := by
    rw [List.eq_replicate_iff, List.length_map]
    refine ⟨rfl, fun x hx => ?_⟩
    obtain ⟨a, ha, rfl⟩ := List.mem_map.1 hx
    exact eq_of_beq (List.mem_filter.1 ha).2
  have hfew : (bs.filter (key · == k)).length ≤ 1 := by
    rw [← List.nodup_replicate (a := k), ← hkeys]
    exact (List.filter_sublist.map key).nodup hnodup
  generalize bs.filter (key · == k) = cs at hfilter hfew
  match cs, hfew with
  | [], _ => exact List.perm_nil.1 hfilter
  | [c], _ => exact List.perm_singleton.1 hfilter

section

variable {env : Env} {r : Rehearsal} {order order' : List Node} {s s' : State}

/-- Two runs over the same nodes that follow one rehearsal have added the same, up to the order. -/
theorem Follows.perm (h : Follows env r order s) (h' : Follows env r order' s') (hperm : order'.Perm order) :
    s'.records.Perm s.records ∧ s'.unrecovered.Perm s.unrecovered ∧ s'.clock.now = s.clock.now := by
  have hrecords := congrArg Share.records h.tally
  have hrecords' := congrArg Share.records h'.tally
  have hlost := congrArg Share.lost h.tally
  have hlost' := congrArg Share.lost h'.tally
  have htime := congrArg Share.time h.tally
  have htime' := congrArg Share.time h'.tally
  rw [Share.records_sum] at hrecords hrecords'
  rw [Share.lost_sum] at hlost hlost'
  rw [Share.time_sum] at htime htime'
  refine ⟨?_, ?_, ?_⟩
  · rw [show s'.records = _ from hrecords', show s.records = _ from hrecords]
    exact hperm.flatMap_right _
  · rw [show s'.unrecovered = _ from hlost', show s.unrecovered = _ from hlost]
    exact hperm.flatMap_right _
  · rw [show s'.clock.now = _ from htime', show s.clock.now = _ from htime]
    exact (hperm.map _).sum_eq

/-- Two runs over the same nodes that follow one rehearsal have the same values in the end. -/
theorem Follows.read_eq (h : Follows env r order s) (h' : Follows env r order' s') (hperm : order'.Perm order)
    {p : Place} (hp : p.owner ∈ order.map (·.id)) : s'.documents.read p = s.documents.read p := by
  obtain ⟨m, hm, hid⟩ := List.mem_map.1 hp
  rw [h.values m hm p hid.symm, h'.values m (hperm.mem_iff.2 hm) p hid.symm]

/-- When every node has one record, the nodes of the records are those of the order. -/
theorem Follows.map_node (h : Follows env r order s)
    (hshare : ∀ n ∈ order, ∃ x : Record, x.node = n.id ∧ (r.share n).records = [x]) :
    s.records.map (·.node) = order.map (·.id) := by
  have hrecords := congrArg Share.records h.tally
  rw [Share.records_sum] at hrecords
  rw [show s.records = _ from hrecords]
  clear h hrecords
  induction order with
  | nil => rfl
  | cons n order ih =>
    obtain ⟨x, hx, hown⟩ := hshare n List.mem_cons_self
    rw [List.flatMap_cons, hown, List.singleton_append, List.map_cons, List.map_cons, hx,
      ih fun m hm => hshare m (List.mem_cons_of_mem _ hm)]

/-- A run with its last status. -/
def State.ended (s : State) : State :=
  { s with status := if s.unrecovered.isEmpty then .success else .error }

theorem eq_ended_of_finishRun (h : finishRun true s = .ok () s') : s' = s.ended :=
  (transition_eq_ok_iff.1 h).2

theorem finishRun_eq_ended (h : s.status = .running) : finishRun true s = .ok () s.ended := by
  refine transition_eq_ok_iff.2 ⟨?_, rfl⟩
  rw [h]
  split <;> rfl

theorem isSome_errorText_ended (s : State) : (errorText s.ended).isSome = !s.unrecovered.isEmpty := by
  unfold errorText State.ended
  cases s.unrecovered with
  | nil => rfl
  | cons f fs => rfl

/-- Two runs over the same nodes that follow one rehearsal have traces that agree. -/
theorem Follows.agrees {g : Flow} (hid : g.id = env.flow.id) (h : Follows env r order s) (h' : Follows env r order' s')
    (hperm : order'.Perm order) (hnodup : (order.map (·.id)).Nodup)
    (hshare : ∀ n ∈ order, ∃ x : Record, x.node = n.id ∧ (r.share n).records = [x])
    (hrefers : ∀ x ∈ s.records, Refers (order.map (·.id)) x) :
    (traceOf env s.ended none).Agrees (traceOf (env.over g) s'.ended none) := by
  obtain ⟨hrecords, hlost, htime⟩ := h.perm h' hperm
  have hempty : s'.unrecovered.isEmpty = s.unrecovered.isEmpty := by
    rw [Bool.eq_iff_iff, List.isEmpty_iff_length_eq_zero, List.isEmpty_iff_length_eq_zero, hlost.length_eq]
  have hsteps : (traceOf (env.over g) s'.ended none).steps.Perm (traceOf env s.ended none).steps := by
    have hsame : s'.records.map (·.toStep s'.documents) = s'.records.map (·.toStep s.documents) :=
      List.map_congr_left fun x hx => (hrefers x (hrecords.mem_iff.1 hx)).toStep_eq fun p hp => h.read_eq h' hperm hp
    change (s'.records.map (·.toStep s'.documents)).Perm (s.records.map (·.toStep s.documents))
    rw [hsame]
    exact hrecords.map _
  have hkeys : ((traceOf env s.ended none).steps.map (·.node)).Nodup := by
    have hnodes : (traceOf env s.ended none).steps.map (·.node) = s.records.map (·.node) := by
      change (s.records.map (·.toStep s.documents)).map (·.node) = _
      rw [List.map_map]
      rfl
    rw [hnodes, h.map_node hshare]
    exact hnodup
  refine ⟨hid, rfl, ?_, htime, hsteps, fun id => filter_eq_of_perm hsteps hkeys id, ?_, rfl⟩
  · change (if s'.unrecovered.isEmpty then _ else _) = if s.unrecovered.isEmpty then _ else _
    rw [hempty]
  · change (errorText s'.ended).isSome = (errorText s.ended).isSome
    rw [isSome_errorText_ended, isSome_errorText_ended, hempty]

end

/-! ### Whole runs -/

section

variable {env : Env} (valid : env.Valid) (hinsulated : Insulated env.flow) (hcalm : ∀ moments, env.cancels moments = false)
  {ns : List Node} (hperm : ns.Perm env.flow.nodes) {openCircuits : List String}

include valid hinsulated hcalm hperm

omit valid hinsulated hcalm in
/-- Two orders of a run are about the same nodes. -/
theorem orders_perm {start : String} {order order' : List Node} (hstable : IsStableOrder env.flow start order)
    (hstable' : IsStableOrder (env.flow.reorder ns) start order') : order'.Perm order := by
  refine (List.perm_ext_iff_of_nodup hstable'.nodup.of_map hstable.nodup.of_map).2 fun n => ?_
  rw [hstable.mem_iff, hstable'.mem_iff, ← hperm.mem_iff]
  exact Iff.rfl

/-- The visits in one order are a rehearsal of those in another one, and every node adds one record. -/
theorem exists_follows_both {start : String} {order order' : List Node} (hstable : IsStableOrder env.flow start order)
    (hstable' : IsStableOrder (env.flow.reorder ns) start order') {s : State}
    (hvisits : visitAll env order (begun env openCircuits) = .ok true s) :
    ∃ r s', Follows env r order s ∧ visitAll env order' (begun env openCircuits) = .ok true s' ∧
      Follows env r order' s' ∧ ∀ n ∈ order, ∃ x : Record, x.node = n.id ∧ (r.share n).records = [x] := by
  have hwhole : IsStableOrder env.flow start (order ++ []) := by rwa [List.append_nil]
  obtain ⟨hfollows, hrehearsed⟩ := follows_rehearsalOf valid hinsulated hcalm hwhole hvisits
  generalize rehearsalOf env (order ++ []) (begun env openCircuits) = r at hfollows hrehearsed
  have hall : ∀ n ∈ env.flow.nodes, env.flow.Reaches start n.id → ∃ past, Rehearsed env r start n past :=
    fun n hn hreached => hrehearsed n ((hstable.mem_iff n).2 ⟨hn, hreached⟩)
  have hbegun : Follows env r [] (begun env openCircuits) := follows_begun hcalm r
  obtain ⟨s', hvisits', hfollows'⟩ :=
    exists_follows_of_rehearsed valid hinsulated hcalm hperm hall (by rwa [List.nil_append]) hbegun
  refine ⟨r, s', hfollows, hvisits', hfollows', fun n hn => ?_⟩
  obtain ⟨past, hpast⟩ := hrehearsed n hn
  have hdeclared := ((hstable.mem_iff n).1 hn).1
  obtain ⟨x, hx, hrecords⟩ := exists_record_of_visit valid hdeclared (hinsulated.handlers n hdeclared) hpast.visited
  refine ⟨x, hx, ?_⟩
  change (r.after n).records.drop (r.before n).records.length = [x]
  rw [hrecords, List.drop_left]

/-- A run that has a trace has one that agrees with it when its nodes are declared in another order. -/
theorem exists_agreeing_trace {t : Trace} (ht : (execute env openCircuits).trace = .ok t) :
    ∃ t', (execute (env.over (env.flow.reorder ns)) openCircuits).trace = .ok t' ∧ t.Agrees t' := by
  have valid' : (env.over (env.flow.reorder ns)).Valid := ⟨valid.builtin, valid.flow.reorder hperm⟩
  obtain ⟨ingress, order, hingress, horder, hstable⟩ := exists_order valid.flow
  obtain ⟨ingress', order', hingress', horder', hstable'⟩ := exists_order valid'.flow
  obtain rfl : ingress' = ingress :=
    List.singleton_inj.1 (hingress'.symm.trans (Flow.ingressNodes_reorder hperm hingress))
  have hwhole : IsStableOrder env.flow ingress'.id (order ++ []) := by rwa [List.append_nil]
  have hwhole' : IsStableOrder (env.over (env.flow.reorder ns)).flow ingress'.id (order' ++ []) := by
    rwa [List.append_nil]
  obtain ⟨s, hrun, rfl, -⟩ := exists_end_of_trace valid ht
  rw [simulate_eq valid hingress horder] at hrun
  obtain ⟨finished, s₁, hvisits, hend⟩ := exists_of_bind_eq_ok hrun
  obtain rfl : finished = true :=
    visitAll_of_calm valid hinsulated hcalm hwhole (by rwa [List.append_nil])
  obtain rfl := eq_ended_of_finishRun hend
  -- Both orders follow one rehearsal, in which every visit leaves what it leaves on its own.
  obtain ⟨r, s', hfollows, hvisits', hfollows', hshare⟩ :=
    exists_follows_both valid hinsulated hcalm hperm hstable hstable' hvisits
  have hover : visitAll (env.over (env.flow.reorder ns)) order' (begun (env.over (env.flow.reorder ns)) openCircuits) =
      .ok true s' := (visitAll_reorder valid hperm order' _).trans hvisits'
  have hstatus := (exists_turned valid' hwhole' (begun_eq _ openCircuits).1 hover).1
  have hrun' : simulate (env.over (env.flow.reorder ns)) (initialState (env.over (env.flow.reorder ns)) openCircuits) =
      .ok () s'.ended := by
    rw [simulate_eq valid' hingress' horder', bind_eq_of_ok _ hover]
    exact finishRun_eq_ended hstatus
  refine ⟨_, trace_execute_of_ok hrun', hfollows.agrees rfl hfollows' (orders_perm hperm hstable hstable') hstable.nodup
    hshare ?_⟩
  exact refers_of_visitAll valid hwhole (begun_eq env openCircuits).1 hvisits

end

/-- When the nodes of a flow have nothing in common but what the edges carry, the order in which they are declared
decides only about the order of the steps of its runs, and about the failure that is quoted when there are several. -/
theorem run_reorder {engine : Engine} (hbuiltin : engine.registry = .builtin) {f : Flow} (valid : f.Valid .builtin)
    (hinsulated : Insulated f) {ns : List Node} (hperm : ns.Perm f.nodes) (r : Request) :
    ∃ report report', engine.run f r.uncancelled = .ok report ∧
      engine.run (f.reorder ns) r.uncancelled = .ok report' ∧
        (∀ t, report.trace = .ok t → ∃ t', report'.trace = .ok t' ∧ t.Agrees t') ∧
          ∀ t', report'.trace = .ok t' → ∃ t, report.trace = .ok t ∧ t'.Agrees t := by
  have hvalid : f.Valid engine.registry := hbuiltin ▸ valid
  have hvalid' : (f.reorder ns).Valid engine.registry := hvalid.reorder hperm
  refine ⟨_, _, Engine.run_eq_ok_iff.2 ⟨hvalid, rfl⟩, Engine.run_eq_ok_iff.2 ⟨hvalid', rfl⟩, fun t ht => ?_,
    fun t' ht' => ?_⟩
  · have hagrees : (r.uncancelled.env engine f).Valid := ⟨hbuiltin, hvalid⟩
    exact exists_agreeing_trace hagrees hinsulated (fun _ => rfl) hperm ht
  · have hagrees : (r.uncancelled.env engine (f.reorder ns)).Valid := ⟨hbuiltin, hvalid'⟩
    have hinsulated' : Insulated (f.reorder ns) :=
      ⟨fun n hn => hinsulated.calls n (hperm.subset hn), fun n hn => hinsulated.handlers n (hperm.subset hn),
        hinsulated.mappings⟩
    exact exists_agreeing_trace hagrees hinsulated' (fun _ => rfl) hperm.symm ht'

/-- A call that always fails. -/
def failingCall (id : String) : Node :=
  Kind.connector.node id [("connectorId", .text "api"), ("endpointId", .text id), ("failureMode", .text "error"),
    ("retries", .int 0), ("circuitBreaker", .bool false)]

/-- Two calls that fail beside each other. -/
def race : Flow where
  id := "race"
  name := "Race"
  nodes := [Kind.ingress.node "start" [], failingCall "left", failingCall "right"]
  edges := [{ id := "1", source := "start", target := "left" }, { id := "2", source := "start", target := "right" }]
  createdAt := default
  updatedAt := default

/-- The nodes of the race in another order. -/
def raceNodes : List Node :=
  [failingCall "right", Kind.ingress.node "start" [], failingCall "left"]

/-- What the calls are set to. -/
def failingOutbound : OutboundConfig where
  retries := 0
  circuitBreaker := false
  failureMode := "error"

theorem insulated_race : Insulated race where
  calls n hn c hcall := by
    have hleft :
        MakesCall (failingCall "left") ⟨failingCall "left", failingOutbound, circuitName (failingCall "left")⟩ :=
      ⟨.connector ⟨failingOutbound, "api", "left"⟩, rfl, rfl, rfl⟩
    have hright :
        MakesCall (failingCall "right") ⟨failingCall "right", failingOutbound, circuitName (failingCall "right")⟩ :=
      ⟨.connector ⟨failingOutbound, "api", "right"⟩, rfl, rfl, rfl⟩
    rcases List.mem_cons.1 hn with rfl | hn
    · obtain ⟨config, htype, -, hcall⟩ := hcall
      rcases (of_callOf?_eq_some hcall).2.2 with hkind | hkind
      · rw [hkind] at htype
        exact absurd htype (by decide)
      · rw [hkind] at htype
        exact absurd htype (by decide)
    · rcases List.mem_cons.1 hn with rfl | hn
      · rw [hcall.unique hleft]
        rfl
      · obtain rfl := List.mem_singleton.1 hn
        rw [hcall.unique hright]
        rfl
  handlers n hn limit hagain := by
    have hnone : ∀ n ∈ race.nodes, n.type ≠ Kind.errorHandler.name := by
      decide
    obtain ⟨c, htype, -⟩ := hagain
    exact hnone n hn htype
  mappings := by
    have hnone : ∀ e ∈ race.edges, e.data.mapping = [] := by
      decide
    intro e he m hm
    rw [hnone e he] at hm
    cases hm

/-- A run of the race. -/
def raceRun : Request where
  input := .object []
  execution := "run"

/-- What is quoted when a call of the race is the first one that fails. -/
def raceError (id : String) : String :=
  Failure.summary ⟨.callFailed ("api/" ++ id), id⟩

/-- In another order, the calls of the race fail the other way round, and another failure is quoted. -/
theorem run_reorder_race : ∃ report report' t t', ({} : Engine).run race raceRun.uncancelled = .ok report ∧
    ({} : Engine).run (race.reorder raceNodes) raceRun.uncancelled = .ok report' ∧ report.trace = .ok t ∧
      report'.trace = .ok t' ∧ t.Agrees t' ∧ t.steps.map (·.node) = ["start", "left", "right"] ∧
        t'.steps.map (·.node) = ["start", "right", "left"] ∧ t.error? = some (raceError "left") ∧
          t'.error? = some (raceError "right") := by
  have valid : race.Valid .builtin := by
    decide
  have hperm : raceNodes.Perm race.nodes :=
    (List.Perm.swap _ _ _).trans ((List.Perm.swap _ _ _).cons _)
  obtain ⟨report, report', hrun, hrun', hforth, -⟩ :=
    @run_reorder {} rfl race valid insulated_race raceNodes hperm raceRun
  obtain ⟨_, s, hrun₁, htrace, hnodes, herror⟩ := @exists_trace_of_isOk {} race raceRun.uncancelled
    (fun s => s.records.map (·.node) = ["start", "left", "right"] ∧ errorText s = some (raceError "left"))
    valid (by decide +kernel) (by decide +kernel)
  obtain ⟨_, s', hrun₂, htrace', hnodes', herror'⟩ := @exists_trace_of_isOk {} (race.reorder raceNodes)
    raceRun.uncancelled
    (fun s => s.records.map (·.node) = ["start", "right", "left"] ∧ errorText s = some (raceError "right"))
    (valid.reorder hperm) (by decide +kernel) (by decide +kernel)
  cases hrun.symm.trans hrun₁
  cases hrun'.symm.trans hrun₂
  obtain ⟨t', ht', hagrees⟩ := hforth _ htrace
  cases htrace'.symm.trans ht'
  refine ⟨report, report', _, _, hrun, hrun', htrace, htrace', hagrees, ?_, ?_, herror, herror'⟩
  · exact (List.map_map ..).trans hnodes
  · exact (List.map_map ..).trans hnodes'

end IntegrationFlow.Run
