import PeersTouch.Inbox.Queue

/-!
# The lanes of the device inbox

A lane is a log with a read position: `nextSequence` items were appended, the first `ackedThrough` of
them are done, and `activeConsumerEpoch` counts the leases. `Sound` says that the stored rows are such
a log; every transaction keeps it (`Call.sound`), whatever the clocks, consumers and epochs of its
request are. The transactions are looked at once, in `Change`, which lists what a committed one can
have written.
-/

namespace PeersTouch.Inbox

open Lib Method Chat Queue List Registry ItemModel Lane

/-! ### Rows that are there -/

namespace Queue

variable {q q' : Queue} {device : Endpoint} {lane : Lane} {item item' : ItemModel}

def Holds (q : Queue) (item : ItemModel) : Prop := q.items.find item.itemID = some item

@[simp] lemma saveLane_items : (q.saveLane device lane).items = q.items := rfl

@[simp] lemma saveItem_lanes : (q.saveItem item).lanes = q.lanes := rfl

@[simp] lemma saveLane_lanes_self : (q.saveLane device lane).lanes device = lane := by simp [saveLane]

lemma holds_of_find {id : String} (h : q.items.find id = some item) : q.Holds item := by
  have hid : item.itemID = id := key_of_find h
  rw [Holds, hid, h]

lemma mem_itemsOf : item ∈ q.itemsOf device ↔ q.Holds item ∧ item.recipient = device := by simp [itemsOf, Holds]

lemma saveItem_holds : (q.saveItem item').Holds item ↔ item = item' ∨ item.itemID ≠ item'.itemID ∧ q.Holds item := by
  unfold Holds saveItem
  rw [find_insert]
  split_ifs with h
  · constructor
    · intro e
      exact .inl (Option.some.inj e).symm
    · rintro (rfl | ⟨hne, -⟩)
      · rfl
      · exact absurd h.symm hne
  · constructor
    · intro e
      exact .inr ⟨fun e' => h e'.symm, e⟩
    · rintro (rfl | ⟨-, e⟩)
      · exact absurd rfl h
      · exact e

/-- The rows of `q'` are those of `q`, each rewritten by `f`. -/
def Rewrites (f : ItemModel → ItemModel) (q q' : Queue) : Prop := ∀ id, q'.items.find id = (q.items.find id).map f

variable {f : ItemModel → ItemModel}

lemma Rewrites.holds (h : Rewrites f q q') (hitem : q'.Holds item) : ∃ x, q.Holds x ∧ f x = item := by
  rw [Holds, h, Option.map_eq_some_iff] at hitem
  obtain ⟨x, hx, hfx⟩ := hitem
  exact ⟨x, holds_of_find hx, hfx⟩

lemma Rewrites.holds_map (h : Rewrites f q q') (hitem : q.Holds item) : q'.Holds (f item) :=
  holds_of_find (by rw [h, hitem]; rfl)

lemma rewrites_saveItem (hitem : q.Holds item) (hid : item'.itemID = item.itemID) :
    Rewrites (fun x => if x = item then item' else x) q (q.saveItem item') := by
  intro id
  unfold saveItem
  rw [find_insert]
  split_ifs with h
  · rw [← h, hid, hitem]
    simp
  · cases hx : q.items.find id with
    | none => rfl
    | some x =>
      have hne : x ≠ item := by
        rintro rfl
        exact h (hid.trans (key_of_find hx))
      simp [hne]

lemma foldl_saveItem (items : List ItemModel) (q : Queue) :
    items.foldl saveItem q = { q with items := items.foldl insert q.items } := by
  induction items generalizing q with
  | nil => rfl
  | cons item items ih => rw [foldl_cons, ih]; rfl

lemma rewrites_foldl_saveItem (hf : ∀ x, (f x).itemID = x.itemID)
    {items : List ItemModel} (hitems : ∀ x ∈ items, q.Holds x) :
    Rewrites (fun x => if x ∈ items then f x else x) q ((items.map f).foldl saveItem q) := by
  intro id
  rw [foldl_saveItem]
  exact find_foldl_insert_map hf hitems id

end Queue

/-! ### The invariant -/

/-- What never changes about an item. -/
structure ItemModel.SameDelivery (x y : ItemModel) : Prop where
  itemID : y.itemID = x.itemID
  recipient : y.recipient = x.recipient
  laneSequence : y.laneSequence = x.laneSequence
  opaquePayload : y.opaquePayload = x.opaquePayload
  payloadSHA256 : y.payloadSHA256 = x.payloadSHA256

section

variable [Digest]

structure Sound (q : Queue) : Prop where
  payload : ∀ x, q.Holds x → PayloadMatches x
  bounded : ∀ x, q.Holds x →
    1 ≤ x.laneSequence ∧ x.laneSequence ≤ (q.lanes x.recipient).nextSequence
  distinct : ∀ x y, q.Holds x → q.Holds y → x.recipient = y.recipient →
    x.laneSequence = y.laneSequence → x = y
  complete : ∀ device n, 1 ≤ n → n ≤ (q.lanes device).nextSequence →
    ∃ x, q.Holds x ∧ x.recipient = device ∧ x.laneSequence = n
  acked : ∀ x, q.Holds x → (x.state = .acked ↔ x.laneSequence ≤ (q.lanes x.recipient).ackedThrough)
  acked_le : ∀ device, (q.lanes device).ackedThrough ≤ (q.lanes device).nextSequence
  epoch : ∀ x, q.Holds x → x.leaseConsumerEpoch ≤ (q.lanes x.recipient).activeConsumerEpoch

lemma Sound.empty : Sound .empty := by
  have hnone : ∀ x, ¬Queue.empty.Holds x := by
    intro x hx
    simp [Queue.Holds, Queue.empty] at hx
  constructor
  case payload => exact fun x hx => absurd hx (hnone x)
  case bounded => exact fun x hx => absurd hx (hnone x)
  case distinct => exact fun x y hx => absurd hx (hnone x)
  case complete =>
    intro device n h₁ h₂
    simp only [Queue.empty, zero] at h₂
    omega
  case acked => exact fun x hx => absurd hx (hnone x)
  case acked_le => exact fun device => le_refl 0
  case epoch => exact fun x hx => absurd hx (hnone x)

variable {q q' : Queue}

/-- Rewriting rows in place keeps the log; what is left to show is about states and leases. -/
lemma Sound.rewrites (h : Sound q) {f : ItemModel → ItemModel} (hf : Queue.Rewrites f q q')
    (hsame : ∀ x, q.Holds x → x.SameDelivery (f x))
    (hnext : ∀ device, (q'.lanes device).nextSequence = (q.lanes device).nextSequence)
    (hacked_le : ∀ device, (q'.lanes device).ackedThrough ≤ (q.lanes device).nextSequence) (hacked : ∀ x, q.Holds x →
    ((f x).state = .acked ↔ x.laneSequence ≤ (q'.lanes x.recipient).ackedThrough)) (hep : ∀ x, q.Holds x →
    (f x).leaseConsumerEpoch ≤ (q'.lanes x.recipient).activeConsumerEpoch) : Sound q' := by
  constructor
  case payload =>
    intro y hy
    obtain ⟨x, hx, rfl⟩ := hf.holds hy
    rw [PayloadMatches, (hsame x hx).opaquePayload, (hsame x hx).payloadSHA256]
    exact h.payload x hx
  case bounded =>
    intro y hy
    obtain ⟨x, hx, rfl⟩ := hf.holds hy
    rw [(hsame x hx).laneSequence, (hsame x hx).recipient, hnext]
    exact h.bounded x hx
  case distinct =>
    intro y y' hy hy' hrcp hseq
    obtain ⟨x, hx, rfl⟩ := hf.holds hy
    obtain ⟨x', hx', rfl⟩ := hf.holds hy'
    rw [(hsame x hx).recipient, (hsame x' hx').recipient] at hrcp
    rw [(hsame x hx).laneSequence, (hsame x' hx').laneSequence] at hseq
    rw [h.distinct x x' hx hx' hrcp hseq]
  case complete =>
    intro device n h₁ h₂
    rw [hnext] at h₂
    obtain ⟨x, hx, hrcp, hseq⟩ := h.complete device n h₁ h₂
    refine ⟨f x, hf.holds_map hx, ?_, ?_⟩
    · rw [(hsame x hx).recipient, hrcp]
    · rw [(hsame x hx).laneSequence, hseq]
  case acked =>
    intro y hy
    obtain ⟨x, hx, rfl⟩ := hf.holds hy
    rw [hacked x hx, (hsame x hx).laneSequence, (hsame x hx).recipient]
  case acked_le =>
    intro device
    rw [hnext]
    exact hacked_le device
  case epoch =>
    intro y hy
    obtain ⟨x, hx, rfl⟩ := hf.holds hy
    rw [(hsame x hx).recipient]
    exact hep x hx

end

/-! ### What a transaction writes -/

section

variable {q q' : Queue}

def Lane.extended (lane : Lane) : Lane := { lane with nextSequence := lane.nextSequence + 1 }

def Lane.takenBy (lane : Lane) (consumerID : String) : Lane := { lane with
  activeConsumerID := consumerID, activeConsumerEpoch := lane.activeConsumerEpoch + 1 }

def Queue.leasedBy (q : Queue) (request : ClaimRequest) (items : List ItemModel) : Queue :=
  (items.map (leaseItem request ((q.lanes request.recipient).activeConsumerEpoch + 1))).foldl
    Queue.saveItem
    (q.saveLane request.recipient ((q.lanes request.recipient).takenBy request.consumerID))

def Queue.Beyond (q : Queue) (request : ClaimRequest) (x : ItemModel) : Prop :=
  q.Holds x ∧ x.recipient = request.recipient ∧ (q.lanes request.recipient).ackedThrough < x.laneSequence

variable {lane : Lane}

lemma Queue.saveLane_lanes {device e : Endpoint} :
    (q.saveLane device lane).lanes e = if e = device then lane else q.lanes e := rfl

lemma Queue.saveLane_lanes_field {α : Type} (field : Lane → α) {device : Endpoint}
    (h : field lane = field (q.lanes device)) (e : Endpoint) :
    field ((q.saveLane device lane).lanes e) = field (q.lanes e) := by
  rw [saveLane_lanes]
  split_ifs with he
  · rw [he, h]
  · rfl

end

variable {x : ItemModel}

section

variable [Digest] {q q' : Queue}

inductive Change (q : Queue) : Queue → Prop
  | idle : Change q q
  | appended (request : EnqueueRequest)
      (hpayload : hashBytes request.opaquePayload = request.payloadHash)
      (hfresh : q.items.find request.itemID = none) :
      Change q ((q.saveLane request.recipient (q.lanes request.recipient).extended).saveItem
        (newItem request (q.lanes request.recipient).extended.nextSequence))
  /-- The lane got its first consumer, which found nothing to lease. -/
  | opened (device : Endpoint) (consumerID : String) :
      Change q (q.saveLane device ((q.lanes device).takenBy consumerID))
  /-- Items beyond the acknowledged ones were leased under the next epoch. -/
  | leased (request : ClaimRequest) (run : List ItemModel) (hrun : ∀ x ∈ run, q.Beyond request x) :
      Change q (q.leasedBy request run)
  | acknowledged (item : ItemModel) (now : Time) (hitem : q.Holds item)
      (hhead : item.laneSequence = (q.lanes item.recipient).ackedThrough + 1) :
      Change q ((q.saveItem (acknowledged item now)).saveLane item.recipient
        { q.lanes item.recipient with ackedThrough := item.laneSequence })
  | rejected (item : ItemModel) (request : RejectRequest) (hitem : q.Holds item)
      (hhead : item.laneSequence = (q.lanes item.recipient).ackedThrough + 1) :
      Change q (q.saveItem (rejected item request))
  /-- A payload did not match its hash. This does not happen. -/
  | corrupted {q' : Queue} (item : ItemModel) (hitem : q.Holds item) (hbad : ¬PayloadMatches item) :
      Change q q'

lemma Sound.appended (h : Sound q) (request : EnqueueRequest)
    (hpay : hashBytes request.opaquePayload = request.payloadHash) (hfresh : q.items.find request.itemID = none) :
    Sound ((q.saveLane request.recipient (q.lanes request.recipient).extended).saveItem
    (newItem request (q.lanes request.recipient).extended.nextSequence)) := by
  set new := newItem request (q.lanes request.recipient).extended.nextSequence with hnew
  set q₁ := q.saveLane request.recipient (q.lanes request.recipient).extended with hq₁
  have hrcp : new.recipient = request.recipient := rfl
  have hsequence : new.laneSequence = (q.lanes request.recipient).nextSequence + 1 := rfl
  have hln : q₁.lanes request.recipient = (q.lanes request.recipient).extended := saveLane_lanes_self
  have hnext : (q₁.lanes request.recipient).nextSequence =
      (q.lanes request.recipient).nextSequence + 1 := by rw [hln]; rfl
  have hoth : ∀ device ≠ request.recipient, q₁.lanes device = q.lanes device :=
    fun device hd => by simp [q₁, saveLane, hd]
  have hack : ∀ device, (q₁.lanes device).ackedThrough = (q.lanes device).ackedThrough :=
    saveLane_lanes_field ackedThrough rfl
  have hep : ∀ device, (q₁.lanes device).activeConsumerEpoch = (q.lanes device).activeConsumerEpoch :=
    saveLane_lanes_field activeConsumerEpoch rfl
  have hgrows : ∀ device, (q.lanes device).nextSequence ≤ (q₁.lanes device).nextSequence := by
    intro device
    by_cases hd : device = request.recipient
    · rw [hd]
      omega
    · rw [hoth device hd]
  -- the item has an identifier and a sequence of its own
  have hid : ∀ x, q.Holds x → x.itemID ≠ new.itemID := by
    intro x hx hid
    rw [Queue.Holds, hid, show new.itemID = request.itemID from rfl, hfresh] at hx
    cases hx
  have hlast : ∀ x, q.Holds x → x.recipient = new.recipient → x.laneSequence ≠ new.laneSequence := by
    intro x hx hx' hsame
    have hle := (h.bounded x hx).2
    rw [hx', hrcp] at hle
    omega
  constructor
  case payload =>
    intro x hx
    rcases saveItem_holds.1 hx with rfl | ⟨-, hx⟩
    · exact hpay
    · exact h.payload x hx
  case bounded =>
    intro x hx
    rw [saveItem_lanes]
    rcases saveItem_holds.1 hx with rfl | ⟨-, hx⟩
    · rw [hrcp]
      omega
    · obtain ⟨h₁, h₂⟩ := h.bounded x hx
      exact ⟨h₁, le_trans h₂ (hgrows x.recipient)⟩
  case distinct =>
    intro x y hx hy hxy hsame
    rcases saveItem_holds.1 hx with rfl | ⟨-, hx⟩ <;>
      rcases saveItem_holds.1 hy with rfl | ⟨-, hy⟩
    · rfl
    · exact absurd hsame.symm (hlast y hy hxy.symm)
    · exact absurd hsame (hlast x hx hxy)
    · exact h.distinct x y hx hy hxy hsame
  case complete =>
    intro device n h₁ h₂
    rw [saveItem_lanes] at h₂
    by_cases hn : n ≤ (q.lanes device).nextSequence
    · obtain ⟨x, hx, hx', hseq⟩ := h.complete device n h₁ hn
      exact ⟨x, saveItem_holds.2 (.inr ⟨hid x hx, hx⟩), hx', hseq⟩
    · have hd : device = request.recipient := by
        by_contra hd
        rw [hoth device hd] at h₂
        exact hn h₂
      subst hd
      refine ⟨new, saveItem_holds.2 (.inl rfl), rfl, ?_⟩
      omega
  case acked =>
    intro x hx
    rw [saveItem_lanes, hack]
    rcases saveItem_holds.1 hx with rfl | ⟨-, hx⟩
    · have hle := h.acked_le request.recipient
      rw [hrcp]
      refine iff_of_false (fun hst => ?_) (by omega)
      cases hst
    · exact h.acked x hx
  case acked_le =>
    intro device
    rw [saveItem_lanes, hack]
    exact le_trans (h.acked_le device) (hgrows device)
  case epoch =>
    intro x hx
    rw [saveItem_lanes, hep]
    rcases saveItem_holds.1 hx with rfl | ⟨-, hx⟩
    · exact Nat.zero_le _
    · exact h.epoch x hx

omit [Digest] in
lemma Queue.takenBy_lanes (q : Queue) (device : Endpoint) (consumerID : String) (e : Endpoint) :
    let lane := (q.saveLane device ((q.lanes device).takenBy consumerID)).lanes e
    lane.nextSequence = (q.lanes e).nextSequence ∧ lane.ackedThrough = (q.lanes e).ackedThrough ∧
      (q.lanes e).activeConsumerEpoch ≤ lane.activeConsumerEpoch := by
  intro lane
  simp only [lane, saveLane_lanes]
  split_ifs with he
  · subst he
    exact ⟨rfl, rfl, Nat.le_succ _⟩
  · exact ⟨rfl, rfl, le_refl _⟩

lemma Sound.leased (h : Sound q) (request : ClaimRequest) {run : List ItemModel}
    (hrun : ∀ x ∈ run, q.Beyond request x) : Sound (q.leasedBy request run) := by
  unfold leasedBy
  have hln := q.takenBy_lanes request.recipient request.consumerID
  have hself : (q.saveLane request.recipient ((q.lanes request.recipient).takenBy
    request.consumerID)).lanes request.recipient =
        (q.lanes request.recipient).takenBy request.consumerID := saveLane_lanes_self
  set q₁ := q.saveLane request.recipient ((q.lanes request.recipient).takenBy request.consumerID) with hq₁
  set f := leaseItem request ((q.lanes request.recipient).activeConsumerEpoch + 1) with hf
  have hlanes : ((run.map f).foldl saveItem q₁).lanes = q₁.lanes := by rw [foldl_saveItem]
  refine h.rewrites (rewrites_foldl_saveItem (q := q₁) (f := f) (fun x => rfl) fun x hx => (hrun x hx).1) ?_ ?_ ?_ ?_ ?_
  · intro x hx
    split_ifs
    · exact ⟨rfl, rfl, rfl, rfl, rfl⟩
    · exact ⟨rfl, rfl, rfl, rfl, rfl⟩
  · intro e
    rw [hlanes]
    exact (hln e).1
  · intro e
    rw [hlanes, (hln e).2.1]
    exact h.acked_le e
  · intro x hx
    rw [hlanes, (hln x.recipient).2.1]
    split_ifs with hmem
    · obtain ⟨-, hx', hlt⟩ := hrun x hmem
      rw [hx']
      refine iff_of_false (fun hst => ?_) (not_le.2 hlt)
      cases hst
    · exact h.acked x hx
  · intro x hx
    rw [hlanes]
    split_ifs with hmem
    · rw [(hrun x hmem).2.1, hself]
      exact le_refl _
    · exact le_trans (h.epoch x hx) (hln x.recipient).2.2

variable {item : ItemModel}

lemma Sound.acknowledged (h : Sound q) (now : Time) (hitem : q.Holds item)
    (hhead : item.laneSequence = (q.lanes item.recipient).ackedThrough + 1) :
    Sound ((q.saveItem (Inbox.acknowledged item now)).saveLane item.recipient
      { q.lanes item.recipient with ackedThrough := item.laneSequence }) := by
  have hln : ∀ e, ((q.saveItem (Inbox.acknowledged item now)).saveLane item.recipient
    { q.lanes item.recipient with ackedThrough := item.laneSequence }).lanes e =
      if e = item.recipient then
        { q.lanes item.recipient with ackedThrough := item.laneSequence } else q.lanes e :=
    fun e => rfl
  have hid : (Inbox.acknowledged item now).itemID = item.itemID := rfl
  refine h.rewrites (rewrites_saveItem hitem hid) ?_ ?_ ?_ ?_ ?_
  · intro x hx
    split_ifs with hx'
    · subst hx'
      exact ⟨rfl, rfl, rfl, rfl, rfl⟩
    · exact ⟨rfl, rfl, rfl, rfl, rfl⟩
  · intro e
    rw [hln]
    split_ifs with he
    · rw [he]
    · rfl
  · intro e
    rw [hln]
    split_ifs with he
    · rw [he]
      exact (h.bounded item hitem).2
    · exact h.acked_le e
  · intro x hx
    have hacked := h.acked x hx
    rw [hln]
    split_ifs with hx' hd hd
    · exact iff_of_true rfl (le_of_eq (by rw [hx']))
    · exact absurd (by rw [hx']) hd
    · -- the head is the only item between the two positions
      have hne : x.laneSequence ≠ item.laneSequence := fun hseq => hx' (h.distinct x item hx hitem hd hseq)
      rw [hd] at hacked
      rw [hacked]
      change _ ↔ x.laneSequence ≤ item.laneSequence
      omega
    · exact hacked
  · intro x hx
    have hle := h.epoch x hx
    rw [hln]
    split_ifs with hx' hd hd
    · exact Nat.zero_le _
    · exact Nat.zero_le _
    · rw [hd] at hle
      exact hle
    · exact hle

omit [Digest] in
lemma rejected_sameDelivery (item : ItemModel) (request : RejectRequest) : item.SameDelivery (rejected item request) ∧
    (rejected item request).state ≠ .acked ∧ (rejected item request).leaseConsumerEpoch = 0 := by
  unfold rejected
  dsimp only
  split_ifs <;> exact ⟨⟨rfl, rfl, rfl, rfl, rfl⟩, by simp, rfl⟩

lemma Sound.rejected (h : Sound q) (request : RejectRequest) (hitem : q.Holds item)
    (hhead : item.laneSequence = (q.lanes item.recipient).ackedThrough + 1) :
    Sound (q.saveItem (Inbox.rejected item request)) := by
  obtain ⟨hsame, hst, hep⟩ := rejected_sameDelivery item request
  refine h.rewrites (rewrites_saveItem hitem hsame.itemID) ?_ (fun _ => rfl) h.acked_le ?_ ?_
  · intro x hx
    split_ifs with hx'
    · rw [hx']
      exact hsame
    · exact ⟨rfl, rfl, rfl, rfl, rfl⟩
  · intro x hx
    split_ifs with hx'
    · subst hx'
      refine iff_of_false hst ?_
      rw [saveItem_lanes]
      omega
    · exact h.acked x hx
  · intro x hx
    split_ifs with hx'
    · rw [hep]
      exact Nat.zero_le _
    · exact h.epoch x hx

/-- **Every transaction keeps the lanes.** -/
lemma Change.sound (hchg : Change q q') (h : Sound q) : Sound q' := by
  cases hchg with
  | idle => exact h
  | appended request hpay hnew => exact h.appended request hpay hnew
  | opened device consumerID =>
    have hln := q.takenBy_lanes device consumerID
    refine h.rewrites (fun id => by simp) (fun x _ => ⟨rfl, rfl, rfl, rfl, rfl⟩) (fun e => (hln e).1) ?_ ?_ ?_
    · intro e
      rw [(hln e).2.1]
      exact h.acked_le e
    · intro x hx
      rw [(hln x.recipient).2.1]
      exact h.acked x hx
    · intro x hx
      exact le_trans (h.epoch x hx) (hln x.recipient).2.2
  | leased request run hrun => exact h.leased request hrun
  | acknowledged item now hitem hhead => exact h.acknowledged now hitem hhead
  | rejected item request hitem hhead => exact h.rejected request hitem hhead
  | corrupted item hitem hbad => exact absurd (h.payload item hitem) hbad

/-! ### The transactions -/

omit [Digest] in
/-- A checked transaction that does not commit writes nothing. -/
lemma checked_transact_outcome {α : Type} {x : Except Error Unit} {op : String}
    {device : DeviceCheck} {body : Method Queue Error (Except Error α)}
    {P : Except Error α × Queue → Prop} (hfail : ∀ e, P (.error e, q))
    (hbody : ∀ r q', x = .ok () → body.call q = (.ok r, q') → P (r, q')) :
    P ((liftM x >>= fun _ => transact op device body).call q) := by
  refine lift_bind_outcome (fun e _ => hfail e) fun _ hx => bind_outcome ?_ ?_
  · intro e q' h
    obtain rfl := atomic_onClone _ q e q' h
    exact hfail e
  · intro r q' h
    rw [onClone_returns, lift_bind_returns] at h
    obtain ⟨-, -, h⟩ := h
    exact hbody r q' hx h

lemma enqueueItem_change {limits : QueueLimits} {request : EnqueueRequest} {item : Item}
    (hpay : hashBytes request.opaquePayload = request.payloadHash)
    (h : (enqueueItem limits request).call q = (.ok item, q')) : Change q q' := by
  rw [enqueueItem, receiver_bind_call] at h
  split at h
  · -- the item is there already
    simp only [lift_bind_returns, lift_returns, exists_unit] at h
    obtain ⟨-, -, rfl⟩ := h
    exact .idle
  · simp only [lift_bind_returns, assign_bind_call, exists_unit] at h
    obtain ⟨-, -, h⟩ := h
    obtain ⟨_, q₁, hcre, hitem⟩ := bind_returns.1 h
    obtain ⟨-, rfl⟩ := lift_returns.1 hitem
    rw [createItem, receiver_bind_call] at hcre
    simp only [lift_bind_returns, assign_returns, ok_iff, not_or, Bool.not_eq_true,
      Option.isSome_eq_false_iff, Option.isNone_iff_eq_none] at hcre
    obtain ⟨⟨hnew, -⟩, rfl⟩ := hcre
    exact .appended request hpay hnew

lemma acknowledgeItem_change {request : AcknowledgeRequest} {r : Except Error ℕ}
    (h : (acknowledgeItem request).call q = (.ok r, q')) :
    Change q q' ∧ request.consumerEpoch = (q.lanes request.recipient).activeConsumerEpoch := by
  rw [acknowledgeItem, receiver_bind_call] at h
  simp only [lift_bind_returns, ok_iff, not_not] at h
  obtain ⟨hep, item, hitem, hrcp, hseq, h⟩ := h
  have hheld : q.Holds item := holds_of_find (orFail_eq_ok.1 hitem)
  refine ⟨?_, hep⟩
  split at h
  · next hbad => exact .corrupted item hheld hbad
  · simp only [lift_bind_returns, ok_iff] at h
    obtain ⟨-, h⟩ := h
    split at h
    · simp only [lift_bind_returns] at h
      obtain ⟨-, -, -, rfl⟩ := h
      exact .idle
    · simp only [lift_bind_returns, exists_unit] at h
      obtain ⟨hls, -, rfl⟩ := h
      simp only [checkHeadLease, ok_iff, not_not] at hls
      rw [← hrcp] at hls ⊢
      exact .acknowledged item request.now hheld hls.1

lemma rejectItem_change {request : RejectRequest} {r : RejectResult} (h : (rejectItem request).call q = (.ok r, q')) :
    q' = q ∨ Change q q' ∧ request.consumerEpoch = (q.lanes request.recipient).activeConsumerEpoch := by
  rw [rejectItem, receiver_bind_call] at h
  simp only [lift_bind_returns, ok_iff, not_or, not_not] at h
  obtain ⟨item, hitem, hrcp, ⟨-, hhead⟩, h⟩ := h
  have hheld : q.Holds item := holds_of_find (orFail_eq_ok.1 hitem)
  split at h
  · obtain ⟨-, rfl⟩ := lift_returns.1 h
    exact .inl rfl
  · simp only [lift_bind_returns, ok_iff, not_not] at h
    obtain ⟨hep, -, -, -, -, rfl⟩ := h
    rw [← hrcp] at hhead
    exact .inr ⟨.rejected item request hheld hhead, hep⟩

/-! ### Claims -/

variable {items : List ItemModel}

omit [Digest] in
lemma contiguous_subset (h : x ∈ contiguous items) : x ∈ items := by
  induction items using contiguous.induct with
  | case1 => exact h
  | case2 item => exact h
  | case3 item next rest hnext ih =>
    rw [contiguous, if_pos hnext] at h
    rcases mem_cons.1 h with rfl | h
    · exact mem_cons_self
    · exact mem_cons_of_mem _ (ih h)
  | case4 item next rest hnext =>
    rw [contiguous, if_neg hnext] at h
    obtain rfl := mem_singleton.1 h
    exact mem_cons_self

omit [Digest] in
lemma contiguous_sequences {n : ℕ} (h : (contiguous items).head?.map laneSequence = some n) :
    (contiguous items).map laneSequence = range' n (contiguous items).length := by
  induction items using contiguous.induct generalizing n with
  | case1 => simp [contiguous] at h
  | case2 item =>
    simp only [contiguous, head?_cons, Option.map_some, Option.some.injEq] at h
    simp [contiguous, h]
  | case3 item next rest hnext ih =>
    rw [contiguous, if_pos hnext] at h ⊢
    simp only [head?_cons, Option.map_some, Option.some.injEq] at h
    have hhead : (contiguous (next :: rest)).head? = some next := by
      cases rest with
      | nil => rfl
      | cons a rest =>
        rw [contiguous]
        split_ifs <;> rfl
    have hrest := ih (by rw [hhead, Option.map_some, hnext])
    rw [map_cons, length_cons, range'_succ, hrest, h]
  | case4 item next rest hnext =>
    rw [contiguous, if_neg hnext] at h ⊢
    simp only [head?_cons, Option.map_some, Option.some.injEq] at h
    simp [h]

end

section

variable {q q' : Queue}

structure Granted (q : Queue) (request : ClaimRequest) (result : ClaimResult) (q' : Queue) :
    Prop where
  sequences : result.items.map Item.laneSequence =
    List.range' ((q.lanes request.recipient).ackedThrough + 1) result.items.length
  epoch : result.consumerEpoch = (q.lanes request.recipient).activeConsumerEpoch + 1
  active : (q'.lanes request.recipient).activeConsumerEpoch = result.consumerEpoch
  leased : ∀ item ∈ result.items, item.recipient = request.recipient ∧ item.state = .claimed ∧
    item.lease = some { consumerID := request.consumerID, consumerEpoch := result.consumerEpoch
                        expiresAt := request.now + request.leaseDuration } ∧
    ∃ row, q'.Holds row ∧ modelToItem row = .ok item

lemma modelToItem_fields {model : ItemModel} {item : Item} (h : modelToItem model = .ok item) :
    item.laneSequence = model.laneSequence ∧ item.recipient = model.recipient ∧
      item.state = model.state ∧ item.lease = model.leaseExpiresAt.map fun expiresAt =>
        { consumerID := model.leaseConsumerID, consumerEpoch := model.leaseConsumerEpoch, expiresAt } := by
  simp only [modelToItem, ok_iff] at h
  obtain ⟨-, -, -, rfl⟩ := h
  exact ⟨rfl, rfl, rfl, rfl⟩

lemma Queue.saveLane_self (q : Queue) (device : Endpoint) : q.saveLane device (q.lanes device) = q := by
  have hlanes : (fun e => if e = device then q.lanes device else q.lanes e) = q.lanes := by
    funext e
    split_ifs with he
    · rw [he]
    · rfl
  rw [saveLane, hlanes]

lemma Queue.saveLane_saveLane (q : Queue) (device : Endpoint) (lane lane' : Lane) :
    (q.saveLane device lane).saveLane device lane' = q.saveLane device lane' := by
  unfold saveLane
  congr 1
  funext e
  simp only
  split_ifs <;> rfl

variable {request : ClaimRequest}

lemma claimCandidates_spec (h : x ∈ claimCandidates q request) : q.Beyond request x := by
  have h := mem_of_mem_take h
  rw [mem_insertionSort, mem_filter, decide_eq_true_eq] at h
  obtain ⟨hx, hbeyond, -⟩ := h
  obtain ⟨hheld, hrcp⟩ := mem_itemsOf.1 hx
  exact ⟨hheld, hrcp, hbeyond⟩

lemma advanceWhen_eq_ok {needed : Bool} {lane lane' : Lane} {consumerID : String}
    (h : advanceWhen needed lane consumerID = .ok lane') : lane' = if needed then lane.takenBy consumerID else lane := by
  unfold advanceWhen at h
  split_ifs at h ⊢
  · simp only [advanceConsumerEpoch, ok_iff] at h
    exact h.2.symm
  · exact (Except.ok.inj h).symm

lemma granted_of_run {run : List ItemModel} {items : List Item} (hhead : run.map laneSequence =
    range' ((q.lanes request.recipient).ackedThrough + 1) run.length)
    (hrun : ∀ x ∈ run, q.Beyond request x) (hitems : (run.map (leaseItem request
    ((q.lanes request.recipient).activeConsumerEpoch + 1))).mapM modelToItem = .ok items) : Granted q request
    { emptyClaim ((q.lanes request.recipient).takenBy request.consumerID) with items }
    (q.leasedBy request run) := by
  unfold leasedBy
  set q₁ := q.saveLane request.recipient ((q.lanes request.recipient).takenBy request.consumerID) with hq₁
  set f := leaseItem request ((q.lanes request.recipient).activeConsumerEpoch + 1) with hf
  have hsame : items.map Item.laneSequence = run.map laneSequence := by
    rw [map_of_mapM (fun x y hxy => (modelToItem_fields hxy).1) hitems, map_map]
    rfl
  have hlen : items.length = run.length := by simpa using congrArg length hsame
  constructor
  case sequences => rw [hsame, hhead, hlen]
  case epoch => rfl
  case active =>
    rw [foldl_saveItem]
    rw [saveLane_lanes_self]
    rfl
  case leased =>
    intro item hitem
    obtain ⟨row, hrow, hread⟩ := exists_of_mem_mapM hitems hitem
    obtain ⟨x, hx, rfl⟩ := mem_map.1 hrow
    obtain ⟨-, hrcp, hst, hls⟩ := modelToItem_fields hread
    refine ⟨hrcp.trans (hrun x hx).2.1, hst, hls, f x, ?_, hread⟩
    have hrewrites := rewrites_foldl_saveItem (q := q₁) (f := f) (fun x => rfl) fun x hx => (hrun x hx).1
    have hheld := hrewrites.holds_map (hrun x hx).1
    rwa [if_pos hx] at hheld

end

section

variable [Digest] {q q' : Queue}
  {request : ClaimRequest} {r : Except Error ClaimResult}

lemma grantLease_change {initialized : Bool} {q₀ : Queue} (hq : q = q₀.saveLane request.recipient (if initialized then
    (q₀.lanes request.recipient).takenBy request.consumerID else q₀.lanes request.recipient))
    (h : (grantLease request initialized).call q = (.ok r, q')) :
    Change q₀ q' ∧ ∀ res, r = .ok res → res.items ≠ [] → Granted q₀ request res q' := by
  have hhold : ∀ x, q.Holds x ↔ q₀.Holds x := by
    intro x
    rw [hq]
    rfl
  have hln : q.lanes request.recipient = if initialized then
      (q₀.lanes request.recipient).takenBy request.consumerID else q₀.lanes request.recipient := by
    rw [hq, saveLane_lanes_self]
  have hacked : (q.lanes request.recipient).ackedThrough = (q₀.lanes request.recipient).ackedThrough := by
    rw [hln]
    split_ifs <;> rfl
  have hrun : ∀ x ∈ contiguous (claimCandidates q request), q₀.Beyond request x := by
    intro x hx
    obtain ⟨hheld, hrest⟩ := claimCandidates_spec (contiguous_subset hx)
    rw [hacked] at hrest
    exact ⟨(hhold x).1 hheld, hrest⟩
  rw [grantLease, receiver_bind_call] at h
  dsimp only at h
  split at h
  · -- nothing at the head can be leased
    obtain ⟨rfl, rfl⟩ := pure_returns.1 h
    refine ⟨?_, fun res hr hne => ?_⟩
    · rw [hq]
      cases initialized with
      | true => exact .opened request.recipient request.consumerID
      | false =>
        rw [if_neg (by decide), saveLane_self]
        exact .idle
    · obtain rfl := Except.ok.inj hr
      exact absurd rfl hne
  · next hhead =>
    rw [not_not, hacked] at hhead
    split at h
    · next item hbad =>
      have hmem := mem_of_find?_eq_some hbad
      have hmismatch : ¬PayloadMatches item := by simpa using find?_some hbad
      rw [assign_bind_call, pure_returns] at h
      refine ⟨.corrupted item (hrun item hmem).1 hmismatch, fun res hr => ?_⟩
      rw [← h.1] at hr
      cases hr
    · simp only [lift_bind_returns, assign_bind_call] at h
      obtain ⟨lane, hadv, items, hitems, rfl, rfl⟩ := h
      have htook : lane = (q₀.lanes request.recipient).takenBy request.consumerID := by
        rw [advanceWhen_eq_ok hadv, hln]
        cases initialized <;> rfl
      subst htook
      rw [hq, saveLane_saveLane]
      refine ⟨.leased request _ ?_, ?_⟩
      · rw [← hq]
        exact hrun
      · rintro res ⟨⟩ -
        rw [← hq]
        exact granted_of_run (contiguous_sequences hhead) hrun hitems

lemma claimItems_change (h : (claimItems request).call q = (.ok r, q')) :
    Change q q' ∧ ∀ res, r = .ok res → res.items ≠ [] → Granted q request res q' := by
  rw [claimItems, receiver_bind_call] at h
  simp only [lift_bind_returns, ok_iff] at h
  obtain ⟨hfen, -, lane, hadv, h⟩ := h
  have hln := advanceWhen_eq_ok hadv
  split at h
  · next hrecovering =>
    -- the lane has an epoch already, so nothing is written
    have hep : (q.lanes request.recipient).activeConsumerEpoch ≠ 0 := by
      intro hzero
      refine hfen ⟨hrecovering, .inl ?_⟩
      rw [hzero]
      exact Nat.pos_of_ne_zero hrecovering.1
    simp only [hep, decide_false, Bool.false_eq_true, if_false] at hln
    obtain ⟨rfl, rfl⟩ := pure_returns.1 h
    rw [hln, saveLane_self]
    refine ⟨.idle, fun res hr hne => ?_⟩
    obtain rfl := Except.ok.inj hr
    exact absurd rfl hne
  · exact grantLease_change (by rw [hln]) h

/-! ### Runs -/

inductive Call where
  | enqueue (limits : QueueLimits) (device : DeviceCheck) (request : EnqueueRequest)
  | claim (device : DeviceCheck) (request : ClaimRequest)
  | acknowledge (device : DeviceCheck) (request : AcknowledgeRequest)
  | reject (device : DeviceCheck) (request : RejectRequest)

def Call.run (q : Queue) : Call → Queue
  | .enqueue limits device request => ((Inbox.enqueue limits device request).call q).2
  | .claim device request => ((Inbox.claim device request).call q).2
  | .acknowledge device request => ((Inbox.acknowledge device request).call q).2
  | .reject device request => ((Inbox.reject device request).call q).2

lemma Call.change (call : Call) (q : Queue) : Change q (call.run q) := by
  cases call with
  | enqueue limits device request =>
    refine checked_transact_outcome (P := fun out => Change q out.2) (fun _ => .idle) ?_
    intro r q' hval hbody
    simp only [validateEnqueueRequest, ok_iff, ne_eq, not_not] at hval
    simp only [bind_returns, pure_returns] at hbody
    obtain ⟨item, _, hitem, -, rfl⟩ := hbody
    exact enqueueItem_change hval.2.2.2.2.2.2 hitem
  | claim device request =>
    exact checked_transact_outcome (P := fun out => Change q out.2) (fun _ => .idle)
      fun _ _ _ hbody => (claimItems_change hbody).1
  | acknowledge device request =>
    exact checked_transact_outcome (P := fun out => Change q out.2) (fun _ => .idle)
      fun _ _ _ hbody => (acknowledgeItem_change hbody).1
  | reject device request =>
    refine checked_transact_outcome (P := fun out => Change q out.2) (fun _ => .idle) ?_
    intro r q' _ hbody
    simp only [bind_returns, pure_returns] at hbody
    obtain ⟨res, _, hres, -, rfl⟩ := hbody
    rcases rejectItem_change hres with rfl | ⟨hchg, -⟩
    · exact .idle
    · exact hchg

/-- The positions and the epoch of a lane only grow. -/
lemma Change.mono (hchg : Change q q') (h : Sound q) (device : Endpoint) :
    (q.lanes device).ackedThrough ≤ (q'.lanes device).ackedThrough ∧
    (q.lanes device).activeConsumerEpoch ≤ (q'.lanes device).activeConsumerEpoch := by
  cases hchg with
  | idle => exact ⟨le_refl _, le_refl _⟩
  | appended request hpay hnew =>
    rw [saveItem_lanes, saveLane_lanes]
    split_ifs with hd
    · rw [hd]
      exact ⟨le_refl _, le_refl _⟩
    · exact ⟨le_refl _, le_refl _⟩
  | opened other consumerID =>
    obtain ⟨-, hacked, hep⟩ := q.takenBy_lanes other consumerID device
    exact ⟨hacked.ge, hep⟩
  | leased request run hrun =>
    obtain ⟨-, hacked, hep⟩ := q.takenBy_lanes request.recipient request.consumerID device
    rw [leasedBy, foldl_saveItem]
    exact ⟨hacked.ge, hep⟩
  | acknowledged item now hitem hhead =>
    rw [saveLane_lanes]
    split_ifs with hd
    · rw [hd]
      refine ⟨?_, le_refl _⟩
      change _ ≤ item.laneSequence
      omega
    · exact ⟨le_refl _, le_refl _⟩
  | rejected item request hitem hhead => exact ⟨le_refl _, le_refl _⟩
  | corrupted item hitem hbad => exact absurd (h.payload item hitem) hbad

def runAll (q : Queue) (calls : List Call) : Queue := calls.foldl Call.run q

lemma runAll_sound (h : Sound q) (calls : List Call) : Sound (runAll q calls) := by
  induction calls generalizing q with
  | nil => exact h
  | cons call calls ih => exact ih ((call.change q).sound h)

lemma runAll_mono (h : Sound q) (calls : List Call) (device : Endpoint) :
    (q.lanes device).ackedThrough ≤ ((runAll q calls).lanes device).ackedThrough ∧ (q.lanes device).activeConsumerEpoch ≤
    ((runAll q calls).lanes device).activeConsumerEpoch := by
  induction calls generalizing q with
  | nil => exact ⟨le_refl _, le_refl _⟩
  | cons call calls ih =>
    obtain ⟨hacked, hep⟩ := (call.change q).mono h device
    obtain ⟨hacked', hep'⟩ := ih ((call.change q).sound h)
    exact ⟨le_trans hacked hacked', le_trans hep hep'⟩

variable {device : DeviceCheck}

lemma claim_granted {res : ClaimResult} (h : (claim device request).call q = (.ok res, q'))
    (hne : res.items ≠ []) : Granted q request res q' := by
  refine checked_transact_outcome (P := fun out => out = (.ok res, q') → Granted q request res q') nofun ?_ h
  rintro r q₁ - hbody ⟨⟩
  exact (claimItems_change hbody).2 res rfl hne

lemma reject_fenced {request : RejectRequest}
    (hep : request.consumerEpoch ≠ (q.lanes request.recipient).activeConsumerEpoch) :
    ((reject device request).call q).2 = q := by
  refine checked_transact_outcome (P := fun out => out.2 = q) (fun _ => rfl) ?_
  intro r q₁ _ hbody
  simp only [bind_returns] at hbody
  obtain ⟨res, _, hres, -, rfl⟩ := hbody
  rcases rejectItem_change hres with rfl | ⟨-, hsame⟩
  · rfl
  · exact absurd hsame hep

/-- What a device can rely on about its lane. -/
structure LaneInvariant (q : Queue) (device : Endpoint) : Prop where
  /-- The items carry the sequences from 1 to `nextSequence`, each of them once. -/
  numbered : ∀ x ∈ q.itemsOf device,
    1 ≤ x.laneSequence ∧ x.laneSequence ≤ (q.lanes device).nextSequence
  once : ∀ n, 1 ≤ n → n ≤ (q.lanes device).nextSequence →
    ∃! x, x ∈ q.itemsOf device ∧ x.laneSequence = n
  acked : ∀ x ∈ q.itemsOf device,
    (x.state = .acked ↔ x.laneSequence ≤ (q.lanes device).ackedThrough)
  monotone : ∀ calls, (q.lanes device).ackedThrough ≤ ((runAll q calls).lanes device).ackedThrough ∧
    (q.lanes device).activeConsumerEpoch ≤ ((runAll q calls).lanes device).activeConsumerEpoch
  batch : ∀ check request result q', request.recipient = device →
    (claim check request).call q = (.ok result, q') → result.items ≠ [] →
    Granted q request result q' ∧
      ∀ x ∈ q.itemsOf device, x.leaseConsumerEpoch < result.consumerEpoch
  /-- From then on, outcomes under earlier epochs are ignored. -/
  fenced : ∀ check request result q', request.recipient = device →
    (claim check request).call q = (.ok result, q') → result.items ≠ [] → ∀ calls,
    (∀ check late, late.recipient = device → late.consumerEpoch < result.consumerEpoch →
      ((acknowledge check late).call (runAll q' calls)).2 = runAll q' calls) ∧
    ∀ check late, late.recipient = device → late.consumerEpoch < result.consumerEpoch →
      ((reject check late).call (runAll q' calls)).2 = runAll q' calls

/-- **The device lane**, after any calls in any order. -/
theorem laneInvariant_of_runs (calls : List Call) (device : Endpoint) : LaneInvariant (runAll .empty calls) device := by
  have h : Sound (runAll .empty calls) := runAll_sound .empty calls
  generalize runAll .empty calls = q at h
  constructor
  case numbered =>
    intro x hx
    obtain ⟨hheld, rfl⟩ := mem_itemsOf.1 hx
    exact h.bounded x hheld
  case once =>
    intro n h₁ h₂
    obtain ⟨x, hx, hrecip, hseq⟩ := h.complete device n h₁ h₂
    refine ⟨x, ⟨mem_itemsOf.2 ⟨hx, hrecip⟩, hseq⟩, ?_⟩
    rintro y ⟨hy, hy'⟩
    obtain ⟨hheld, hsame⟩ := mem_itemsOf.1 hy
    exact h.distinct y x hheld hx (hsame.trans hrecip.symm) (hy'.trans hseq.symm)
  case acked =>
    intro x hx
    obtain ⟨hheld, rfl⟩ := mem_itemsOf.1 hx
    exact h.acked x hheld
  case monotone => exact fun calls => runAll_mono h calls device
  case batch =>
    rintro check request result q' rfl hclaim hne
    have hgranted := claim_granted hclaim hne
    refine ⟨hgranted, fun x hx => ?_⟩
    obtain ⟨hheld, hrecip⟩ := mem_itemsOf.1 hx
    have hle := h.epoch x hheld
    rw [hrecip] at hle
    rw [hgranted.epoch]
    exact Nat.lt_succ_of_le hle
  case fenced =>
    rintro check request result q' rfl hclaim hne calls
    have hsound : Sound q' := by
      have hq' : q' = (Call.claim check request).run q := by rw [Call.run, hclaim]
      rw [hq']
      exact ((Call.claim check request).change q).sound h
    have hmono := (runAll_mono hsound calls request.recipient).2
    rw [(claim_granted hclaim hne).active] at hmono
    constructor
    · intro check late hlate hearlier
      refine checked_transact_outcome (P := fun out => out.2 = runAll q' calls) (fun _ => rfl) fun _ _ _ hbody =>
        absurd (acknowledgeItem_change hbody).2 ?_
      rw [hlate]
      omega
    · intro check late hlate hearlier
      refine reject_fenced ?_
      rw [hlate]
      omega

/-! ### Deliveries -/

omit [Digest] in
lemma ItemModel.SameDelivery.refl (x : ItemModel) : x.SameDelivery x := ⟨rfl, rfl, rfl, rfl, rfl⟩

omit [Digest] in
lemma ItemModel.SameDelivery.trans {y z : ItemModel} (h : x.SameDelivery y) (h' : y.SameDelivery z) : x.SameDelivery z :=
  ⟨h'.1.trans h.1, h'.2.trans h.2, h'.3.trans h.3, h'.4.trans h.4, h'.5.trans h.5⟩

omit [Digest] in
lemma exists_sameDelivery_saveItem {item item' : ItemModel} (hitem : q.Holds item) (hsame : item.SameDelivery item')
    (hx : q.Holds x) : ∃ y, (q.saveItem item').Holds y ∧ x.SameDelivery y := by
  refine ⟨_, (rewrites_saveItem hitem hsame.itemID).holds_map hx, ?_⟩
  split_ifs with h
  · exact h ▸ hsame
  · exact .refl x

lemma Change.exists_sameDelivery (hchg : Change q q') (h : Sound q) (hx : q.Holds x) :
    ∃ y, q'.Holds y ∧ x.SameDelivery y := by
  cases hchg with
  | idle | opened => exact ⟨x, hx, .refl x⟩
  | appended request _ hfresh =>
    refine ⟨x, saveItem_holds.2 (.inr ⟨fun hid => ?_, hx⟩), .refl x⟩
    rw [Queue.Holds, hid, show (newItem request _).itemID = request.itemID from rfl, hfresh] at hx
    cases hx
  | leased request run hrun =>
    set q₁ := q.saveLane request.recipient ((q.lanes request.recipient).takenBy request.consumerID)
    set f := leaseItem request ((q.lanes request.recipient).activeConsumerEpoch + 1)
    refine ⟨_, (rewrites_foldl_saveItem (q := q₁) (f := f) (fun _ => rfl) fun x hx => (hrun x hx).1).holds_map hx, ?_⟩
    split_ifs
    · exact ⟨rfl, rfl, rfl, rfl, rfl⟩
    · exact .refl x
  | acknowledged item now hitem => exact exists_sameDelivery_saveItem hitem ⟨rfl, rfl, rfl, rfl, rfl⟩ hx
  | rejected item request hitem => exact exists_sameDelivery_saveItem hitem (rejected_sameDelivery item request).1 hx
  | corrupted item hitem hbad => exact absurd (h.payload item hitem) hbad

lemma exists_sameDelivery_runAll (h : Sound q) (hx : q.Holds x) (calls : List Call) :
    ∃ y, (runAll q calls).Holds y ∧ x.SameDelivery y := by
  induction calls generalizing q x with
  | nil => exact ⟨x, hx, .refl x⟩
  | cons call calls ih =>
    obtain ⟨y, hy, hsame⟩ := (call.change q).exists_sameDelivery h hx
    obtain ⟨z, hz, hsame'⟩ := ih ((call.change q).sound h) hy
    exact ⟨z, hz, hsame.trans hsame'⟩

/-- Nothing of `q` is lost or altered in `q'`, and what was acknowledged is not open again. -/
def Queue.Keeps (q q' : Queue) : Prop :=
  ∀ x, q.Holds x → ∃ y, q'.Holds y ∧ x.SameDelivery y ∧ (x.state = .acked → y.state = .acked)

end

end PeersTouch.Inbox
