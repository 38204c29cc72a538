import Moleculer.Tcp.Exchange

/-! Two nodes agree about the others after an exchange in each direction. -/

namespace Moleculer.Tcp

open Base Cluster Cluster.Registry

/-- What a node knows about another one, as far as gossip is concerned. -/
structure Standing where
  available : Bool
  seq : ℚ
  deriving DecidableEq, Repr

/-- What one node tells another one about a third. -/
inductive Word where
  | nothing
  | online (seq : ℚ)
  | offline (seq : ℚ)
  deriving DecidableEq, Repr

namespace Standing

/-- A standing in words. -/
def word (standing : Standing) : Word :=
  if standing.available then .online standing.seq else .offline standing.seq

/-- What a node asks with: numbers that are not positive stay unsaid for offline nodes. -/
def claim : Option Standing → Word
  | some standing =>
    if standing.available || 0 < standing.seq then standing.word else .nothing
  | none => .nothing

/-- The answer to a claim, and what the claim leaves behind. -/
def answer (claim : Word) : Option Standing → Option Standing × Word
  | none => (none, .nothing)
  | some own =>
    match claim with
    | .nothing => (some own, own.word)
    | .online seq => (some own, if seq < own.seq then own.word else .nothing)
    | .offline seq => if seq < own.seq then (some own, own.word) else (some ⟨false, seq⟩, .nothing)

/-- What an answer leaves behind. -/
def learn (word : Word) (own : Option Standing) : Option Standing :=
  match word, own with
  | .nothing, own => own
  | .online seq, none => some ⟨true, seq⟩
  | .online seq, some own => if own.seq < seq then some ⟨true, seq⟩ else some own
  | .offline _, none => none
  | .offline seq, some own => if own.seq < seq then some ⟨false, seq⟩ else some own

/-- An exchange, for the node that asks and the one that answers. -/
def exchange (asker teller : Option Standing) : Option Standing × Option Standing :=
  (learn (answer (claim asker) teller).2 asker, (answer (claim asker) teller).1)

/-- Nodes that are online have a number. -/
def Numbered (standing : Option Standing) : Prop :=
  ∀ own, standing = some own → own.available = true → 0 < own.seq

section Cases

variable (s t : ℚ)

theorem exchange_online_online : exchange (some ⟨true, s⟩) (some ⟨true, t⟩) =
    (some ⟨true, max s t⟩, some ⟨true, t⟩) := by
  by_cases below : s < t
  · simp [exchange, claim, answer, learn, word, below, max_eq_right below.le]
  · simp [exchange, claim, answer, learn, word, below, max_eq_left (not_lt.mp below)]

theorem exchange_online_offline : exchange (some ⟨true, s⟩) (some ⟨false, t⟩) =
    (if s < t then some ⟨false, t⟩ else some ⟨true, s⟩, some ⟨false, t⟩) := by
  by_cases below : s < t <;> simp [exchange, claim, answer, learn, word, below]

theorem exchange_offline_online (positive : 0 < t) : exchange (some ⟨false, s⟩) (some ⟨true, t⟩) =
    if s < t then (some ⟨true, t⟩, some ⟨true, t⟩) else (some ⟨false, s⟩, some ⟨false, s⟩) := by
  by_cases below : s < t
  · by_cases said : 0 < s <;> simp [exchange, claim, answer, learn, word, below, said]
  · -- A number that is not below a positive one is said.
    have said : 0 < s := by grind
    simp [exchange, claim, answer, learn, word, below, said]

theorem exchange_offline_offline : exchange (some ⟨false, s⟩) (some ⟨false, t⟩) =
    (some ⟨false, max s t⟩, some ⟨false, if t < s ∧ 0 < s then s else t⟩) := by
  by_cases said : 0 < s
  · rcases lt_trichotomy s t with below | rfl | above
    · simp [exchange, claim, answer, learn, word, said, below, below.not_gt, max_eq_right below.le]
    · simp [exchange, claim, answer, learn, word, said]
    · simp [exchange, claim, answer, learn, word, said, above, above.not_gt, max_eq_left above.le]
  · by_cases below : s < t
    · simp [exchange, claim, answer, learn, word, said, below, max_eq_right below.le]
    · simp [exchange, claim, answer, learn, word, said, below, max_eq_left (not_lt.mp below)]

theorem exchange_none (teller : Option Standing) : exchange none teller =
    (teller.filter (·.available), teller) := by
  cases teller with
  | none => rfl
  | some own =>
    obtain ⟨available, seq⟩ := own
    cases available <;> rfl

theorem exchange_to_none (asker : Option Standing) : exchange asker none = (asker, none) := by
  cases asker <;> rfl

end Cases

/-- After an exchange in each direction there is one standing, at least as high as before. -/
theorem exchange_exchange {asker teller : Option Standing} (first : Numbered asker)
    (second : Numbered teller) {one other : Standing}
    (here : (exchange (exchange asker teller).2 (exchange asker teller).1).2 = some one)
    (there : (exchange (exchange asker teller).2 (exchange asker teller).1).1 = some other) :
    one = other ∧ (∀ own, asker = some own → own.seq ≤ one.seq) ∧
      ∀ own, teller = some own → own.seq ≤ one.seq := by
  match asker, teller with
  | none, none => cases here
  | none, some ⟨true, t⟩ =>
    -- The node that asked has heard of it for the first time.
    simp [exchange_none, Option.filter_some, exchange_online_online] at here there
    subst here there
    simp
  | none, some ⟨false, t⟩ =>
    simp [exchange_none, Option.filter_some, exchange_to_none] at here
  | some ⟨true, s⟩, none =>
    simp [exchange_to_none, exchange_none, Option.filter_some] at here there
    subst here there
    simp
  | some ⟨false, s⟩, none =>
    simp [exchange_to_none, exchange_none, Option.filter_some] at there
  | some ⟨true, s⟩, some ⟨true, t⟩ =>
    simp only [exchange_online_online, Option.some.injEq] at here there
    subst here there
    simp
  | some ⟨true, s⟩, some ⟨false, t⟩ =>
    have positive : 0 < s := first _ rfl rfl
    by_cases below : s < t
    · simp [exchange_online_offline, below, exchange_offline_offline] at here there
      subst here there
      simp [below.le]
    · -- The other direction decides between two nodes that have heard different things.
      simp only [exchange_online_offline, if_neg below,
        exchange_offline_online _ _ positive] at here there
      by_cases behind : t < s
      · rw [if_pos behind] at here there
        cases here
        cases there
        simp [behind.le]
      · rw [if_neg behind] at here there
        cases here
        cases there
        simp
        grind
  | some ⟨false, s⟩, some ⟨true, t⟩ =>
    have positive : 0 < t := second _ rfl rfl
    rw [exchange_offline_online _ _ positive] at here there
    by_cases below : s < t
    · simp [if_pos below, exchange_online_online] at here there
      subst here there
      simp [below.le]
    · simp [if_neg below, exchange_offline_offline] at here there
      subst here there
      simp
      grind
  | some ⟨false, s⟩, some ⟨false, t⟩ =>
    simp only [exchange_offline_offline, Option.some.injEq] at here there
    subst here there
    simp only [mk.injEq, true_and, Option.some.injEq]
    refine ⟨?_, ?_, ?_⟩
    · split_ifs <;> grind
    · rintro _ rfl
      dsimp only
      split_ifs <;> grind
    · rintro _ rfl
      dsimp only
      split_ifs <;> grind

end Standing

/-- The standing of a node in a registry. -/
def standing (registry : Registry) (id : String) : Option Standing :=
  (registry.nodes.get (some id)).map fun node => ⟨node.available, node.seq⟩

/-- If a node is online, its number is positive and that of the info that goes with it. -/
def Informed (registry : Registry) (id : String) : Prop :=
  ∀ node, registry.nodes.get (some id) = some node → node.available = true →
    0 < node.seq ∧ node.rawInfo.bind (·.seq) = some node.seq

/-- A number is news to who made a claim. -/
def Word.Below (seq : ℚ) : Word → Prop
  | .nothing => True
  | .online known => known < seq
  | .offline known => known < seq

theorem Standing.seq_lt_of_below {known : Option Standing} {seq : ℚ} (positive : 0 < seq)
    (below : (Standing.claim known).Below seq) {own : Standing} (some : known = some own) :
    own.seq < seq := by
  subst some
  unfold Standing.claim Standing.word at below
  dsimp only at below
  split at below
  · split at below <;> exact below
  · rename_i unsaid
    simp only [Bool.or_eq_true, decide_eq_true_eq, not_or] at unsaid
    grind

/-- A response tells a word about a node, in answer to a claim about it. The processor usage alone
says nothing new, and is only sent about nodes that were claimed to be online. -/
def Tells (claim : Word) (response : GossipResponse) (id : String) : Word → Prop
  | .nothing => response.offline.get id = none ∧ (response.online.get id = none ∨
      (∃ seq, claim = .online seq) ∧
        ∃ number usage, response.online.get id = some (.cpu number usage))
  | .online seq => 0 < seq ∧ claim.Below seq ∧ response.offline.get id = none ∧
    ∃ info number usage,
      response.online.get id = some (.infoAndCpu (some info) number usage) ∧ info.seq = some seq
  | .offline seq => response.online.get id = none ∧ response.offline.get id = some seq

section Refinement

variable {asker teller : Registry}

theorem claim_gossipRequest (asking : asker.Sound) {id : String} (informed : Informed asker id) :
    match Standing.claim (standing asker id) with
    | .nothing => (gossipRequest asker).knownSeq (some id) = none
    | .online seq => (gossipRequest asker).knownSeq (some id) = some seq ∧
        (gossipRequest asker).offlineSeq (some id) = none ∧ 0 < seq
    | .offline seq => (gossipRequest asker).knownSeq (some id) = some seq ∧
        (gossipRequest asker).offlineSeq (some id) = some seq ∧ 0 < seq := by
  obtain ⟨offline, known⟩ := knownSeq_gossipRequest asking id
  rw [offline, known]
  unfold standing
  cases found : asker.nodes.get (some id) with
  | none => rfl
  | some node =>
    cases available : node.available with
    | true =>
      have positive := (informed node found available).1
      simp [Standing.claim, Standing.word, available, positive]
    | false =>
      by_cases said : 0 < node.seq
      · simp [Standing.claim, Standing.word, available, said]
      · simp [Standing.claim, available, said, not_lt.mp said]

/-- A node answers claims about a third one as its standing tells. -/
theorem answerAll_remote (asking : asker.Sound) (telling : teller.Sound) (now : Nat) {id : String}
    (remote : id ≠ teller.nodeID) (claiming : Informed asker id) (informed : Informed teller id) :
    standing (answerAll teller (gossipRequest asker) now).1 id =
        (Standing.answer (Standing.claim (standing asker id)) (standing teller id)).1 ∧
      Informed (answerAll teller (gossipRequest asker) now).1 id ∧
      Tells (Standing.claim (standing asker id)) (answerAll teller (gossipRequest asker) now).2 id
        (Standing.answer (Standing.claim (standing asker id)) (standing teller id)).2 := by
  have claimed := claim_gossipRequest asking claiming
  generalize Standing.claim (standing asker id) = claim at *
  cases found : teller.nodes.get (some id) with
  | none =>
    -- The loop never comes to this node.
    have others (node : Node) (inside : node ∈ teller.nodes.values) :
        node.self.id ≠ some id ∧ propertyKey node.self.id ≠ propertyKey (some id) := by
      have stored := stored_values telling inside
      have differs : node.self.id ≠ some id := fun here => by
        rw [here, found] at stored
        cases stored
      exact ⟨differs, propertyKey_ne (telling.keyed _ _ stored).2.1 (Option.some_ne_none id)
        differs⟩
    have same := sameAt_answerNodes (gossipRequest asker) now teller.nodes.values others
      (teller, ⟨.empty, .empty⟩) fun node inside isLocal =>
        (telling.keyed _ _ (stored_values telling inside)).2.2.mp isLocal
    have unknown : standing teller id = none := by rw [standing, found, Option.map_none]
    have kept := same.nodes.trans found
    rw [unknown]
    refine ⟨?_, fun node stored _ => ?_, same.offline, .inl same.online⟩
    · rw [standing, answerAll, kept]
      rfl
    · cases kept.symm.trans stored
  | some node =>
    obtain ⟨self, _, isLocal⟩ := telling.keyed _ _ found
    have away : node.isLocal = false := by
      rw [Bool.eq_false_iff]
      exact fun here => remote (Option.some.inj (isLocal.mp here))
    have known : standing teller id = some ⟨node.available, node.seq⟩ := by
      rw [standing, found, Option.map_some]
    obtain ⟨middle, before, after⟩ := exists_turn telling (gossipRequest asker) now found
    have turn := answer_remote (gossipRequest asker) now self away (before.nodes.trans found)
      ⟨before.online, before.offline⟩
    have online : (answerAll teller (gossipRequest asker) now).2.online.get id =
        (answerNode (gossipRequest asker) now middle node).2.online.get id := after.online
    have offline : (answerAll teller (gossipRequest asker) now).2.offline.get id =
        (answerNode (gossipRequest asker) now middle node).2.offline.get id := after.offline
    rw [← after.nodes, ← online, ← offline] at turn
    generalize answerAll teller (gossipRequest asker) now = all at turn
    -- The node speaks for itself where the claim is older or missing.
    have speaks (below : claim.Below node.seq) (kept : all.1.nodes.get (some id) = some node ∧
        all.2.online.get id = (if node.available then some (infoRow node node.rawInfo) else none) ∧
        all.2.offline.get id = if node.available then none else some node.seq) :
        standing all.1 id = some ⟨node.available, node.seq⟩ ∧ Informed all.1 id ∧
          Tells claim all.2 id (Standing.word ⟨node.available, node.seq⟩) := by
      obtain ⟨stored, row, number⟩ := kept
      refine ⟨by rw [standing, stored, Option.map_some], fun record located awake => ?_, ?_⟩
      · cases stored.symm.trans located
        exact informed node found awake
      · cases available : node.available with
        | false =>
          rw [available] at row number
          exact ⟨row, number⟩
        | true =>
          rw [available] at row number
          obtain ⟨positive, numbered⟩ := informed node found available
          obtain ⟨info, raw, seq⟩ := Option.bind_eq_some_iff.mp numbered
          rw [raw] at row
          exact ⟨positive, below, number, info, _, _, row, seq⟩
    rw [known]
    cases claim with
    | nothing =>
      rw [claimed] at turn
      exact speaks trivial turn
    | online seq =>
      obtain ⟨number, notOffline, positive⟩ := claimed
      rw [number, notOffline, Option.filter_some] at turn
      by_cases below : seq < node.seq
      · simp only [below, not_true_eq_false, and_false, decide_false, Bool.false_eq_true,
          if_false] at turn
        simpa only [Standing.answer, if_pos below] using speaks below turn
      · simp only [below, positive.ne', not_false_eq_true, ne_eq, and_true, decide_true, if_true,
          Option.isSome_none, Bool.false_eq_true, if_false] at turn
        obtain ⟨noClaim, record, stored, row, available, same, info⟩ := turn
        refine ⟨?_, fun other located awake => ?_, ?_⟩
        · rw [standing, stored, Option.map_some, available, same]
          rfl
        · cases stored.symm.trans located
          rw [same, info]
          exact informed node found (available ▸ awake)
        · simp only [Standing.answer, if_neg below]
          exact ⟨noClaim, row.imp_right fun usage => ⟨⟨seq, rfl⟩, usage⟩⟩
    | offline seq =>
      obtain ⟨number, isOffline, positive⟩ := claimed
      rw [number, isOffline, Option.filter_some] at turn
      by_cases below : seq < node.seq
      · simp only [below, not_true_eq_false, and_false, decide_false, Bool.false_eq_true,
          if_false] at turn
        simpa only [Standing.answer, if_pos below] using speaks below turn
      · simp only [below, positive.ne', not_false_eq_true, ne_eq, and_true, decide_true, if_true,
          Option.isSome_some] at turn
        obtain ⟨noClaim, record, stored, noRow, available, same⟩ := turn
        refine ⟨?_, fun other located awake => ?_, ?_⟩
        · simp only [Standing.answer, if_neg below]
          rw [standing, stored, Option.map_some, available, same]
        · cases stored.symm.trans located
          rw [available] at awake
          cases awake
        · simp only [Standing.answer, if_neg below]
          exact ⟨noClaim, .inl noRow⟩

/-- The record of a third node after an answer is the one that the word asks for. -/
theorem learn_remote {middle : Registry} {response : GossipResponse} {id : String} {word : Word}
    (informed : Informed asker id) (now : Nat) (same : SameRecord id asker middle)
    (tells : Tells (Standing.claim (standing asker id)) response id word) {after : Registry}
    (learned : after.nodes.get (some id) = (match response.online.get id with
      | some row => learnedOnline middle now id row
      | none => asker.nodes.get (some id)).map fun node =>
        match response.offline.get id with
        | some seq => learnedOffline now seq node
        | none => node) :
    standing after id = Standing.learn word (standing asker id) ∧ Informed after id := by
  have unchanged (kept : after.nodes.get (some id) = asker.nodes.get (some id)) :
      standing after id = standing asker id ∧ Informed after id := by
    unfold standing Informed
    rw [kept]
    exact ⟨rfl, informed⟩
  cases word with
  | nothing =>
    obtain ⟨noClaim, row⟩ := tells
    rw [noClaim] at learned
    rcases row with noRow | ⟨⟨seq, claim⟩, number, usage, row⟩
    · rw [noRow] at learned
      exact unchanged (learned.trans (by simp))
    · -- The processor usage of a node that is online.
      rw [row] at learned
      dsimp only at learned
      unfold standing at claim ⊢
      cases found : asker.nodes.get (some id) with
      | none =>
        rw [found] at claim
        cases claim
      | some node =>
        have online : node.available = true := by
          rw [found] at claim
          by_contra asleep
          simp only [Option.map_some, Standing.claim, Standing.word, asleep, if_false] at claim
          split at claim <;> cases claim
        obtain ⟨record, beaten, available, kept, info⟩ := @learnedOnline_some middle now id
          (.cpu number usage) node (same.2.trans found) online
        rw [beaten] at learned
        rw [learned, Option.map_some, Option.map_some, available, kept, ← online]
        refine ⟨rfl, fun other stored _ => ?_⟩
        cases learned.symm.trans stored
        rw [kept, info]
        exact informed node found online
  | online seq =>
    obtain ⟨positive, news, noClaim, info, number, usage, row, numbered⟩ := tells
    rw [noClaim, row] at learned
    dsimp only at learned
    have newSeq : NodeInfo.newSeq { info with sender := some id } = seq := by
      unfold NodeInfo.newSeq
      dsimp only
      rw [numbered]
      exact if_neg positive.ne'
    -- An info that is newer takes over.
    have takes (newer : newerInfo middle id (.infoAndCpu (some info) number usage) = some info)
        (older : middle.Older { info with sender := some id }) :
        standing after id = some ⟨true, seq⟩ ∧ Informed after id := by
      obtain ⟨online, _, raw⟩ := updatedNode_kept middle { info with sender := some id } now
      have given := (congrArg NodeRecord.seq (older.record now)).trans newSeq
      obtain ⟨record, updated, available, kept, rawInfo⟩ := @learnedOnline_some middle now id
        (.infoAndCpu (some info) number usage) _ (by rw [newer]) online
      rw [updated] at learned
      have higher : record.seq = seq := kept.trans given
      refine ⟨?_, fun other stored _ => ?_⟩
      · rw [standing, learned, Option.map_some, Option.map_some, available, higher]
      · cases learned.symm.trans stored
        rw [higher, rawInfo]
        exact ⟨positive,
          by simpa [Option.map_eq_some_iff, Option.bind_eq_some_iff, numbered] using raw⟩
    cases found : asker.nodes.get (some id) with
    | none =>
      have unknown : standing asker id = none := by rw [standing, found, Option.map_none]
      rw [unknown]
      refine takes ?_ (older_of_unseen (same.2.trans found))
      simp [newerInfo, OnlineRow.nodeInfo, same.2, found]
    | some node =>
      have known : standing asker id = some ⟨node.available, node.seq⟩ := by
        rw [standing, found, Option.map_some]
      have below : node.seq < seq := Standing.seq_lt_of_below positive news known
      rw [known]
      simp only [Standing.learn, if_pos below]
      refine takes ?_ fun other stored _ _ => ?_
      · simp [newerInfo, OnlineRow.nodeInfo, same.2, found, numbered, below]
      · cases (same.2.trans found).symm.trans stored
        rw [newSeq]
        exact below
  | offline seq =>
    obtain ⟨noRow, claim⟩ := tells
    rw [noRow, claim] at learned
    cases found : asker.nodes.get (some id) with
    | none =>
      have unknown : standing asker id = none := by rw [standing, found, Option.map_none]
      rw [found] at learned
      rw [unknown]
      refine ⟨by rw [standing, learned]; rfl, fun other stored _ => ?_⟩
      cases learned.symm.trans stored
    | some node =>
      have known : standing asker id = some ⟨node.available, node.seq⟩ := by
        rw [standing, found, Option.map_some]
      rw [found, Option.map_some] at learned
      dsimp only at learned
      by_cases below : node.seq < seq
      · have asleep : (node.disconnected now).available = false := by
          unfold Node.disconnected
          split
          · rfl
          · exact Bool.eq_false_iff.mpr ‹_›
        rw [learnedOffline, if_pos below] at learned
        rw [known]
        simp only [Standing.learn, if_pos below]
        refine ⟨by rw [standing, learned, Option.map_some, asleep], fun other stored awake => ?_⟩
        cases learned.symm.trans stored
        rw [asleep] at awake
        cases awake
      · rw [learnedOffline, if_neg below] at learned
        have kept := unchanged (learned.trans found.symm)
        rw [known] at kept ⊢
        simp only [Standing.learn, if_neg below]
        exact kept

theorem exchange_refines (asking : asker.Sound) (telling : teller.Sound) (now : Nat)
    (knows : teller.nodes.get (some asker.nodeID) ≠ none) {id : String}
    (third : id ≠ asker.nodeID ∧ id ≠ teller.nodeID) (claiming : Informed asker id)
    (informed : Informed teller id) :
    (standing (exchange asker teller now).1 id, standing (exchange asker teller now).2 id) =
        Standing.exchange (standing asker id) (standing teller id) ∧
      Informed (exchange asker teller now).1 id ∧ Informed (exchange asker teller now).2 id := by
  obtain ⟨told, kept, tells⟩ := answerAll_remote asking telling now third.2 claiming informed
  obtain ⟨middle, same, _, learned⟩ := @get_processGossipResponse asker now
    (answerAll teller (gossipRequest asker) now).2 id third.1
  obtain ⟨taken, known⟩ := learn_remote claiming now same tells learned
  rw [exchange_eq telling knows, told, taken]
  exact ⟨rfl, known, kept⟩

theorem exchange_keeps (asking : asker.Sound) (telling : teller.Sound)
    (knows : teller.nodes.get (some asker.nodeID) ≠ none) (now : Nat) :
    (Grows asker (exchange asker teller now).1 ∧ (exchange asker teller now).1.Sound ∧
        (exchange asker teller now).1.nodeID = asker.nodeID) ∧
      Grows teller (exchange asker teller now).2 ∧ (exchange asker teller now).2.Sound ∧
        (exchange asker teller now).2.nodeID = teller.nodeID := by
  rw [exchange_eq telling knows]
  refine ⟨⟨?_, sound_processGossipResponse asking _ now, nodeID_processGossipResponse asker _ now⟩,
    grows_answerAll telling _ now, ?_, nodeID_answerAll telling _ now⟩
  · exact (neverBack_gossipStep asking (.response _ now)).grows
  · rw [← (processGossipRequest_spec teller (gossipRequest asker) now).1]
    exact sound_processGossipRequest telling _ now

end Refinement

/-- After an exchange in each direction, two nodes agree about each third node that both know. Its
number is not lower than before. -/
theorem gossip_converges {one other : Registry} (left : one.Sound) (right : other.Sound)
    (known : one.nodes.get (some other.nodeID) ≠ none)
    (known' : other.nodes.get (some one.nodeID) ≠ none) (now later : Nat) :
    let first := exchange one other now
    let second := exchange first.2 first.1 later
    Grows one second.2 ∧ Grows other second.1 ∧
      ∀ id, id ≠ one.nodeID → id ≠ other.nodeID → Informed one id → Informed other id →
        ∀ node record, second.2.nodes.get (some id) = some node →
          second.1.nodes.get (some id) = some record →
          node.seq = record.seq ∧ node.available = record.available ∧
            (∀ old, one.nodes.get (some id) = some old → old.seq ≤ node.seq) ∧
            ∀ old, other.nodes.get (some id) = some old → old.seq ≤ node.seq := by
  obtain ⟨⟨grows, sound, nodeID⟩, grows', sound', nodeID'⟩ := exchange_keeps left right known' now
  have forward := @exchange_refines one other left right now known'
  dsimp only
  generalize exchange one other now = first at *
  obtain ⟨asked, answered⟩ := first
  dsimp only at *
  have still : asked.nodes.get (some answered.nodeID) ≠ none := by
    obtain ⟨node, found⟩ := Option.ne_none_iff_exists'.mp known
    obtain ⟨record, stored, _⟩ := grows _ node found
    rw [nodeID', stored]
    exact Option.some_ne_none record
  obtain ⟨⟨back, _, _⟩, back', _, _⟩ := exchange_keeps sound' sound still later
  have backward := @exchange_refines answered asked sound' sound later still
  generalize exchange answered asked later = second at *
  refine ⟨grows.trans back', grows'.trans back,
    fun id foreign foreign' informed informed' node record
    found stored => ?_⟩
  obtain ⟨spoken, knows, knows'⟩ := @forward id ⟨foreign, foreign'⟩ informed informed'
  obtain ⟨answer, _, _⟩ := @backward id ⟨nodeID' ▸ foreign', nodeID ▸ foreign⟩ knows' knows
  -- From here on only the standings matter.
  have numbered (registry : Registry) (informed : Informed registry id) :
      Standing.Numbered (standing registry id) := by
    intro own stands online
    obtain ⟨node, found, rfl⟩ := Option.map_eq_some_iff.mp stands
    exact (informed node found online).1
  have here : standing second.2 id = some ⟨node.available, node.seq⟩ := by
    rw [standing, found, Option.map_some]
  have there : standing second.1 id = some ⟨record.available, record.seq⟩ := by
    rw [standing, stored, Option.map_some]
  obtain ⟨same, more, more'⟩ := @Standing.exchange_exchange _ _ (numbered one informed)
    (numbered other informed') ⟨node.available, node.seq⟩ ⟨record.available, record.seq⟩
    (by rw [← spoken, ← answer, here]) (by rw [← spoken, ← answer, there])
  simp only [Standing.mk.injEq] at same
  refine ⟨same.2, same.1, fun old before => ?_, fun old before => ?_⟩
  · exact more ⟨old.available, old.seq⟩ (by rw [standing, before, Option.map_some])
  · exact more' ⟨old.available, old.seq⟩ (by rw [standing, before, Option.map_some])

/-- An info with nothing but a number. -/
def bareInfo (seq : ℚ) : NodeInfo where
  sender := none
  instanceID := "instance"
  seq := some seq
  services := some []
  ipList := []
  hostname := none
  port := none
  client := default
  config := default
  metadata := default

/-- A node that has heard of two others, of the second one with an info. -/
def acquainted (nodeID other third : String) (seq : ℚ) : Registry :=
  run gossipStep (create nodeID "instance" 0) [.hello other "10.0.0.1" (some 3000) 1,
    .response ⟨.set .empty third (.info (some (bareInfo seq))), .empty⟩ 2]

theorem sound_acquainted (nodeID other third : String) (seq : ℚ) :
    (acquainted nodeID other third seq).Sound :=
  sound_gossipRun (sound_create nodeID "instance" 0) _

/-- The first node has heard that the third one has left, the second one knows it as online. -/
theorem gossip_converges_left :
    let one := (acquainted "one" "other" "third" 1).disconnected (some "third") 3
    let first := exchange one (acquainted "other" "one" "third" 1) 4
    let second := exchange first.2 first.1 5
    second.2.nodes.get (some "third") ≠ none ∧ second.1.nodes.get (some "third") ≠ none ∧
      ∀ node record, second.2.nodes.get (some "third") = some node →
        second.1.nodes.get (some "third") = some record →
        node.seq = record.seq ∧ node.available = record.available := by
  obtain ⟨_, _, agree⟩ := gossip_converges
    ((sound_acquainted "one" "other" "third" 1).disconnected (some "third") 3)
    (sound_acquainted "other" "one" "third" 1) (by decide) (by decide) 4 5
  refine ⟨by decide +kernel, by decide +kernel, fun node record found stored => ?_⟩
  obtain ⟨seq, available, _⟩ := agree "third" (by decide +kernel) (by decide +kernel)
    (fun node found online => by cases found; cases online)
    (fun node found _ => by cases found; decide) node record found stored
  exact ⟨seq, available⟩

/-- Numbers that are not positive stay unsaid: two nodes that disagree about such a node, although
each info has the number of its record, do not come to agree. -/
theorem negative_numbers_never_agree : ∃ one other : Registry, (one.Sound ∧ other.Sound) ∧
    one.nodes.get (some other.nodeID) ≠ none ∧ other.nodes.get (some one.nodeID) ≠ none ∧
    (∀ node ∈ one.nodes.values ++ other.nodes.values, node.isLocal = false →
      node.available = true → node.rawInfo.bind (·.seq) = some node.seq) ∧
    let first := exchange one other 4
    let second := exchange first.2 first.1 5
    standing second.2 "third" = some ⟨false, -3⟩ ∧ standing second.1 "third" = some ⟨true, -3⟩ := by
  refine ⟨(acquainted "one" "other" "third" (-4)).disconnected (some "third") 3,
    acquainted "other" "one" "third" (-3), ?_, by decide +kernel, by decide +kernel,
    by decide +kernel, by decide +kernel⟩
  exact ⟨(sound_acquainted "one" "other" "third" (-4)).disconnected (some "third") 3,
    sound_acquainted "other" "one" "third" (-3)⟩

end Moleculer.Tcp
