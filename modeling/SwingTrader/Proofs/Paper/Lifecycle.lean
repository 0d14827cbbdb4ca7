import SwingTrader.Proofs.Paper

/-!
# SwingTrader — the life of an order at the paper venue

An order is issued once, under the next number, and it leaves the book once: a
cancel takes it off, or a ticker fills it for the last time. Calls that were set to
fail, fills in part and orders of other owners may come between at any point; none
of them loses an order, lists it twice or brings it back.

* `Paper.Act` — whatever is done to a paper venue, with `Paper.record` and
  `Paper.afterAll` for one act after the other;
* `Paper.Does` — all that an act can come to, funds included;
* `Paper.Publishes` — what a ticker makes of the book and of the record of fills;
* `Paper.Standing` — the invariant: where every order is that was issued;
* `Paper.Lifecycle`, `Paper.lifecycle_afterAll` — the life of every order.
-/

namespace SwingTrader

namespace Paper

/-! ## Acts -/

/-- What a paper venue can be asked. -/
inductive Question where
  | ticker (market : Market)
  | openOrders (market : Market)
  | availableBalance (currency : String)
  | minimumOrderVolume (market : Market)
  | buyFee (market : Market)
  | sellFee (market : Market)

/--
Whatever is done to a paper venue: the calls of a trader, and what is arranged behind
the trader's back. `fail` sets the three counts of calls that are to fail.
-/
inductive Act where
  | create (market : Market) (kind : OrderKind) (quantity price : Float)
  | cancel (market : Market) (id : OrderId)
  | ask (question : Question)
  | publish (ticker : Ticker)
  | insert (kind : OrderKind) (quantity price : Float)
  | fillInPart (fraction : Option Float)
  | fail (cancels calls afterCancel : Nat)
  | setBalance (currency : String) (amount : Float)

/-- What an act is answered; what a question is answered is of no consequence here. -/
inductive Response where
  | issued (id : OrderId)
  | cancelled (done : Bool)
  | failed (error : VenueError)
  | done

/-- The response to a call, by what an answer of it means. -/
def Response.of {β : Type} (meaning : β → Response) : Except VenueError β → Response
  | .ok answer => meaning answer
  | .error error => failed error

/-- The response to a call, and the venue it leaves behind. -/
def respond {β : Type} (meaning : β → Response) (call : VenueM Paper β) (paper : Paper) :
    Response × Paper :=
  let (reply, after) := (call.run paper : Except VenueError β × Paper)
  (.of meaning reply, after)

/-- Asks a question. -/
def Question.ask : Question → Paper → Response × Paper
  | ticker market => respond (fun _ => .done) (venue.ticker market)
  | openOrders market => respond (fun _ => .done) (venue.openOrders market)
  | availableBalance currency => respond (fun _ => .done) (venue.availableBalance currency)
  | minimumOrderVolume market => respond (fun _ => .done) (venue.minimumOrderVolume market)
  | buyFee market => respond (fun _ => .done) (venue.buyFee market)
  | sellFee market => respond (fun _ => .done) (venue.sellFee market)

/-- The response to an act, and the venue it leaves behind. -/
def Act.perform : Act → Paper → Response × Paper
  | create market kind quantity price, paper =>
    respond .issued (venue.createOrder market kind quantity price) paper
  | cancel market id, paper => respond .cancelled (venue.cancelOrder market id) paper
  | ask question, paper => question.ask paper
  | publish ticker, paper => (.done, paper.setTicker ticker)
  | insert kind quantity price, paper =>
    let (id, after) := paper.insertOpenOrder kind quantity price
    (.issued id, after)
  | fillInPart fraction, paper => (.done, { paper with partialFill := fraction })
  | fail cancels calls afterCancel, paper => (.done, paper.failing cancels calls afterCancel)
  | setBalance currency amount, paper => (.done, paper.setBalance currency amount)

/-- An act, and the venue before it. -/
structure Entry where
  before : Paper
  act : Act

namespace Entry

/-- The response to the act. -/
def response (entry : Entry) : Response :=
  (entry.act.perform entry.before).1

/-- The venue after the act. -/
def after (entry : Entry) : Paper :=
  (entry.act.perform entry.before).2

/-- The order that was issued by the act. -/
def issued? (entry : Entry) : Option OrderId :=
  match entry.response with
  | .issued id => some id
  | _ => none

end Entry

/-- What was done, one act after the other. -/
def record : Paper → List Act → List Entry
  | _, [] => []
  | paper, act :: rest => ⟨paper, act⟩ :: record (act.perform paper).2 rest

/-- The venue after one act and the other. -/
def afterAll : Paper → List Act → Paper
  | paper, [] => paper
  | paper, act :: rest => afterAll (act.perform paper).2 rest

/-- The orders that were issued, in turn. -/
def issued (log : List Entry) : List OrderId :=
  log.filterMap Entry.issued?

/-- The orders on the book. -/
def ids (paper : Paper) : List OrderId :=
  paper.orders.map (·.id)

/-- The fills of one order. -/
def fillsOf (paper : Paper) (id : OrderId) : List Fill :=
  paper.fills.filter fun fill => fill.orderId = id

/-! ## Tickers -/

section Tickers

variable {paper : Paper} {ticker : Ticker} {id : OrderId}

/-- What a ticker leaves of an order. -/
def leftOf (paper : Paper) (ticker : Ticker) (order : OpenOrder) : List OpenOrder :=
  if reaches paper.terms ticker order then remainder order (paper.fillQuantity order) else [order]

/-- A fill is of an order, at its price; but for a short exit, how much of it is known. -/
structure FilledAs (paper : Paper) (order : OpenOrder) (fill : Fill) : Prop where
  id_eq : fill.orderId = order.id
  kind_eq : fill.kind = order.kind
  price_eq : fill.price = order.price
  quantity_eq : order.kind ≠ .shortExit → fill.quantity = paper.fillQuantity order

/--
A ticker fills each order that it reaches once, in the order of the book. It takes such
an order off the book or leaves the rest of it, and leaves the other orders as they were.
-/
structure Publishes (paper : Paper) (ticker : Ticker) (after : Paper) : Prop where
  orders_eq : after.orders = paper.orders.flatMap (paper.leftOf ticker)
  nextId_eq : after.nextId = paper.nextId
  fills_eq : ∃ filled, after.fills = paper.fills ++ filled ∧
    List.Forall₂ paper.FilledAs (paper.orders.filter (reaches paper.terms ticker)) filled

/-- A settled order has one more fill on record. -/
theorem settle_fills (paper : Paper) (order : OpenOrder) :
    ∃ fill, (paper.settle order (paper.fillQuantity order)).fills = paper.fills ++ [fill] ∧
      paper.FilledAs order fill := by
  obtain ⟨id, kind, price, rest, ordered⟩ := order
  cases kind with
  | shortExit => exact ⟨_, rfl, rfl, rfl, rfl, fun hkind => absurd rfl hkind⟩
  | buy | sell | shortEnter => exact ⟨_, rfl, rfl, rfl, rfl, fun _ => rfl⟩

/--
What a ticker makes of some orders, at a venue with the same terms and the same fraction
to fill.
-/
theorem executeAll_publishes {now : Paper} (orders : List OpenOrder)
    (hterms : now.terms = paper.terms)
    (hfraction : now.partialFill = paper.partialFill) :
    (executeAll ticker orders now).1 = orders.flatMap (paper.leftOf ticker) ∧
      (executeAll ticker orders now).2.nextId = now.nextId ∧
        ∃ filled, (executeAll ticker orders now).2.fills = now.fills ++ filled ∧
          List.Forall₂ paper.FilledAs (orders.filter (reaches paper.terms ticker)) filled := by
  induction orders generalizing now with
  | nil => exact ⟨rfl, rfl, [], (List.append_nil _).symm, .nil⟩
  | cons order rest ih =>
    rw [executeAll, hterms, List.flatMap_cons, leftOf]
    by_cases hreaches : reaches paper.terms ticker order = true
    · have hquantity : now.fillQuantity order = paper.fillQuantity order := by
        simp only [fillQuantity, hfraction]
      -- a fill changes neither what the venue charges nor how much of an order it fills
      obtain ⟨_, _, _, hsettle⟩ := settle_eq now order (now.fillQuantity order)
      have hterms' : (now.settle order (now.fillQuantity order)).terms = paper.terms :=
        hsettle ▸ hterms
      obtain ⟨horders, hnext, filled, hfills, hall⟩ := ih hterms' (hsettle ▸ hfraction)
      obtain ⟨fill, hfill, hid, hkind, hprice, hfilled⟩ := settle_fills now order
      rw [if_pos hreaches, if_pos hreaches, List.filter_cons_of_pos hreaches]
      refine ⟨?_, hnext.trans (by rw [hsettle]), fill :: filled, ?_, .cons ?_ hall⟩
      · dsimp only
        rw [horders, hquantity, remainder]
        split <;> rfl
      · dsimp only
        rw [hfills, hfill, List.append_assoc, List.singleton_append]
      · exact ⟨hid, hkind, hprice, fun h => (hfilled h).trans hquantity⟩
    · obtain ⟨horders, hnext, filled, hfills, hall⟩ := ih hterms hfraction
      rw [if_neg hreaches, if_neg hreaches, List.filter_cons_of_neg hreaches]
      exact ⟨congrArg (order :: ·) horders, hnext, filled, hfills, hall⟩

/-- A ticker fills the orders it reaches, in the order of the book. -/
theorem setTicker_publishes (paper : Paper) (ticker : Ticker) :
    paper.Publishes ticker (paper.setTicker ticker) := by
  have hterms : ({ paper with ticker := some ticker } : Paper).terms = paper.terms := rfl
  obtain ⟨horders, hnext, hfills⟩ := executeAll_publishes paper.orders hterms rfl
  exact ⟨horders, hnext, hfills⟩

namespace Publishes

variable {after : Paper}

theorem ids_leftOf (order : OpenOrder) :
    ((paper.leftOf ticker order).map (·.id)).Sublist [order.id] := by
  unfold leftOf
  split
  · obtain hrest | hrest := remainder_cases order (paper.fillQuantity order)
    · rw [hrest]
      exact List.nil_sublist _
    · rw [hrest]
      exact List.Sublist.refl _
  · exact List.Sublist.refl _

/-- A ticker puts no order on the book, and leaves the rest where they were. -/
theorem ids_sublist (h : paper.Publishes ticker after) : after.ids.Sublist paper.ids := by
  rw [ids, ids, h.orders_eq]
  induction paper.orders with
  | nil => exact List.Sublist.refl _
  | cons order rest ih =>
    rw [List.flatMap_cons, List.map_append, List.map_cons]
    exact (ids_leftOf order).append ih

/-- The fills are those of the orders, in turn. -/
theorem ids_of_filled {orders : List OpenOrder} {filled : List Fill}
    (h : List.Forall₂ paper.FilledAs orders filled) :
    filled.map (·.orderId) = orders.map (·.id) := by
  induction h with
  | nil => rfl
  | cons hfilled _ ih => rw [List.map_cons, List.map_cons, hfilled.id_eq, ih]

/-- The fills of a ticker are of the orders it reaches, in turn. -/
theorem fills_ids (h : paper.Publishes ticker after) :
    ∃ filled, after.fills = paper.fills ++ filled ∧
      filled.map (·.orderId) = (paper.orders.filter (reaches paper.terms ticker)).map (·.id) := by
  obtain ⟨filled, hfills, hall⟩ := h.fills_eq
  exact ⟨filled, hfills, ids_of_filled hall⟩

/-- Only an order on the book is filled. -/
theorem fillsOf_eq (h : paper.Publishes ticker after) (hid : id ∉ paper.ids) :
    after.fillsOf id = paper.fillsOf id := by
  obtain ⟨filled, hfills, hids⟩ := h.fills_ids
  have hnone : ∀ fill ∈ filled, ¬decide (fill.orderId = id) = true := by
    intro fill hfill hof
    have hreached : fill.orderId ∈ (paper.orders.filter (reaches paper.terms ticker)).map (·.id) :=
      hids ▸ List.mem_map_of_mem hfill
    rw [of_decide_eq_true hof] at hreached
    exact hid ((List.filter_sublist.map _).subset hreached)
  rw [fillsOf, hfills, List.filter_append, List.filter_eq_nil_iff.mpr hnone, List.append_nil]
  rfl

/-- An order that a ticker takes off the book is filled by it, once. -/
theorem fillsOf_of_gone (h : paper.Publishes ticker after) (hnodup : paper.ids.Nodup)
    (hid : id ∈ paper.ids) (hgone : id ∉ after.ids) :
    ∃ fill, after.fillsOf id = paper.fillsOf id ++ [fill] := by
  obtain ⟨filled, hfills, hids⟩ := h.fills_ids
  have hreached : id ∈ filled.map (·.orderId) := by
    obtain ⟨order, horder, rfl⟩ := List.mem_map.mp hid
    rw [hids]
    refine List.mem_map_of_mem (List.mem_filter.mpr ⟨horder, ?_⟩)
    -- an order that is not reached stays on the book
    by_contra hnot
    refine hgone (List.mem_map_of_mem ?_)
    rw [h.orders_eq]
    refine List.mem_flatMap.mpr ⟨order, horder, ?_⟩
    rw [leftOf, if_neg hnot]
    exact List.mem_singleton_self _
  have honce : (filled.map (·.orderId)).Nodup :=
    hids ▸ hnodup.sublist (List.filter_sublist.map _)
  obtain ⟨fill, hfill, rfl⟩ := List.mem_map.mp hreached
  obtain ⟨earlier, later, rfl⟩ := List.append_of_mem hfill
  rw [List.map_append, List.map_cons, List.nodup_middle, List.nodup_cons, List.mem_append,
    not_or] at honce
  have hother {fills : List Fill} (hnot : fill.orderId ∉ fills.map (·.orderId)) :
      (fills.filter fun other => other.orderId = fill.orderId) = [] := by
    refine List.filter_eq_nil_iff.mpr fun other hmem hof => hnot ?_
    exact of_decide_eq_true hof ▸ List.mem_map_of_mem hmem
  refine ⟨fill, ?_⟩
  rw [fillsOf, hfills, List.filter_append, List.filter_append, hother honce.1.1,
    List.nil_append, List.filter_cons_of_pos (by simp), hother honce.1.2]
  rfl

end Publishes

end Tickers

/-! ## What an act can come to -/

section Does

variable {paper after : Paper} {act : Act} {response : Response} {id : OrderId}

/--
All that an act can come to. Funds are locked away for an order that is placed, given back
for an order that is taken off the book, and moved by fills; nothing else touches them but
an amount that is set.
-/
inductive Does (paper : Paper) : Act → Response → Paper → Prop where
  /-- A question, a call that fails and a cancel that is refused change nothing but the counts. -/
  | spared {act : Act} {response : Response} {after : Paper} (spares : paper.Spares after)
      (issues : ∀ id, response ≠ .issued id) (takes : response ≠ .cancelled true) :
      Does paper act response after
  | placed {market : Market} {order : PlacedOrder} {after : Paper}
      (places : paper.Places order after) :
      Does paper (.create market order.kind order.quantity order.price) (.issued order.id) after
  | inserted (kind : OrderKind) (quantity price : Float) :
      Does paper (.insert kind quantity price) (.issued (.ofNat paper.nextId))
        (paper.insertOpenOrder kind quantity price).2
  | tookOff {market : Market} {order : OpenOrder} {after : Paper}
      (takesOff : paper.TakesOff order after) :
      Does paper (.cancel market order.id) (.cancelled true) after
  | published (ticker : Ticker) : Does paper (.publish ticker) .done (paper.setTicker ticker)
  | parted (fraction : Option Float) :
      Does paper (.fillInPart fraction) .done { paper with partialFill := fraction }
  | endowed (currency : String) (amount : Float) :
      Does paper (.setBalance currency amount) .done (paper.setBalance currency amount)

/-- The response to a call is what its reply means. -/
theorem respond_eq {β : Type} {meaning : β → Response} {call : VenueM Paper β}
    {reply : Except VenueError β} (h : Replies call paper reply after) :
    respond meaning call paper = (.of meaning reply, after) := by
  rw [respond, h]

/-- A call that spares the venue whatever it answers. -/
theorem does_of_asked {β : Type} {call : VenueM Paper β}
    (h : ∀ {reply after}, Replies call paper reply after → paper.Spares after) :
    paper.Does act (respond (fun _ => .done) call paper).1
      (respond (fun _ => .done) call paper).2 := by
  obtain ⟨reply, after, hreply⟩ : ∃ reply after, Replies call paper reply after := ⟨_, _, rfl⟩
  rw [respond_eq hreply]
  cases reply <;> exact .spared (h hreply) nofun nofun

theorem does_perform (paper : Paper) (act : Act) :
    paper.Does act (act.perform paper).1 (act.perform paper).2 := by
  cases act with
  | create market kind quantity price =>
    obtain ⟨reply, after, hreply⟩ :
        ∃ reply after, Replies (venue.createOrder market kind quantity price) paper reply after :=
      ⟨_, _, rfl⟩
    rw [Act.perform, respond_eq hreply]
    obtain ⟨⟨_, rfl⟩, hspares⟩ | ⟨id, rfl, hplaces⟩ := replies_createOrder hreply
    · exact .spared hspares nofun nofun
    · exact .placed hplaces
  | cancel market id =>
    obtain ⟨reply, after, hreply⟩ :
        ∃ reply after, Replies (venue.cancelOrder market id) paper reply after := ⟨_, _, rfl⟩
    rw [Act.perform, respond_eq hreply]
    obtain ⟨hrefused, hspares⟩ | ⟨rfl, order, rfl, htakes⟩ := replies_cancelOrder hreply
    · refine .spared hspares ?_ ?_
      · cases reply <;> exact nofun
      · cases reply with
        | error => exact nofun
        | ok answer => simpa [Response.of] using hrefused
    · exact .tookOff htakes
  | ask question =>
    -- a question leaves every order alone, whatever the answer
    cases question with
    | ticker => exact does_of_asked fun h => replies_ticker h
    | openOrders => exact does_of_asked fun h => (replies_openOrders h).1
    | availableBalance => exact does_of_asked fun h => (replies_availableBalance h).1
    | minimumOrderVolume | buyFee | sellFee => exact does_of_asked fun h => (replies_term h).1
  | publish ticker => exact .published ticker
  | insert kind quantity price => exact .inserted kind quantity price
  | fillInPart fraction => exact .parted fraction
  | fail cancels calls afterCancel => exact .spared ⟨_, _, _, rfl⟩ nofun nofun
  | setBalance currency amount => exact .endowed currency amount

/-- An order that is taken off was on the book, and every other order stays. -/
theorem TakesOff.ids_eq {order : OpenOrder} (h : paper.TakesOff order after) :
    order.id ∈ paper.ids ∧ after.ids = paper.ids.erase order.id := by
  obtain ⟨hfind, _, _, _, rfl⟩ := h
  obtain ⟨_, hrelease⟩ := release_eq paper order
  refine ⟨List.mem_map_of_mem (List.mem_of_find?_eq_some hfind), ?_⟩
  rw [ids, hrelease, ids, List.erase_eq_eraseP, List.eraseP_map]
  show (paper.orders.eraseP _).map _ = _
  congr 2
  ext listed
  rw [Bool.eq_iff_iff, decide_eq_true_eq, Function.comp_apply, beq_iff_eq, eq_comm]

namespace Does

/-- An order is issued under the next number and goes to the end of the book, or none is issued. -/
theorem issued_inv (h : paper.Does act response after) :
    (response = .issued (.ofNat paper.nextId) ∧ after.nextId = paper.nextId + 1 ∧
        after.ids = paper.ids ++ [.ofNat paper.nextId]) ∨
      (∀ id, response ≠ .issued id) ∧ after.nextId = paper.nextId ∧
        after.ids.Sublist paper.ids := by
  cases h with
  | spared spares issues takes =>
    obtain ⟨_, _, _, rfl⟩ := spares
    exact .inr ⟨issues, rfl, .refl _⟩
  | placed places =>
    obtain ⟨hid, hnext, -⟩ := places.numbers
    refine .inl ⟨congrArg _ hid, hnext, ?_⟩
    rw [ids, places.orders_eq, List.map_append, ← hid]
    rfl
  | inserted => exact .inl ⟨rfl, rfl, List.map_append⟩
  | tookOff takesOff =>
    exact .inr ⟨nofun, takesOff.numbers.1, takesOff.ids_eq.2 ▸ List.erase_sublist⟩
  | published ticker =>
    have hpublishes := paper.setTicker_publishes ticker
    exact .inr ⟨nofun, hpublishes.nextId_eq, hpublishes.ids_sublist⟩
  | parted | endowed => exact .inr ⟨nofun, rfl, .refl _⟩

/-- Nothing comes on the book but an order that is issued. -/
theorem mem_ids (h : paper.Does act response after) (hid : id ∈ after.ids) :
    id ∈ paper.ids ∨ id = .ofNat paper.nextId := by
  obtain ⟨-, -, hids⟩ | ⟨-, -, hids⟩ := h.issued_inv
  · rw [hids] at hid
    simpa using hid
  · exact .inl (hids.subset hid)

/-- An order leaves the book by a cancel or by a ticker. -/
theorem gone_inv (h : paper.Does act response after) (hlisted : id ∈ paper.ids)
    (hgone : id ∉ after.ids) :
    (∃ market, act = .cancel market id ∧ response = .cancelled true) ∨
      ∃ ticker, act = .publish ticker ∧ after = paper.setTicker ticker := by
  cases h with
  | spared spares =>
    obtain ⟨_, _, _, rfl⟩ := spares
    exact absurd hlisted hgone
  | placed places =>
    refine absurd ?_ hgone
    rw [ids, places.orders_eq, List.map_append]
    exact List.mem_append_left _ hlisted
  | inserted =>
    refine absurd ?_ hgone
    rw [ids, insertOpenOrder, List.map_append]
    exact List.mem_append_left _ hlisted
  | tookOff takesOff =>
    rw [takesOff.ids_eq.2] at hgone
    -- whatever else was on the book is still there
    obtain rfl : id = _ := by
      by_contra hother
      exact hgone ((List.mem_erase_of_ne hother).mpr hlisted)
    exact .inl ⟨_, rfl, rfl⟩
  | published ticker => exact .inr ⟨ticker, rfl, rfl⟩
  | parted | endowed => exact absurd hlisted hgone

/-- A cancel that succeeds takes an order off the book. -/
theorem takesOff_of_cancelled {market : Market}
    (h : paper.Does (.cancel market id) (.cancelled true) after) :
    ∃ order, order.id = id ∧ paper.TakesOff order after := by
  cases h with
  | spared spares issues takes => exact absurd rfl takes
  | tookOff takesOff => exact ⟨_, rfl, takesOff⟩

/-- An act that fails changes nothing but the counts. -/
theorem spares_of_failed {error : VenueError} (h : paper.Does act (.failed error) after) :
    paper.Spares after := by
  cases h with
  | spared spares => exact spares

/-- A cancel of what is not on the book does not succeed, and changes nothing but the counts. -/
theorem spares_of_unlisted {market : Market} (h : paper.Does (.cancel market id) response after)
    (hid : id ∉ paper.ids) : response ≠ .cancelled true ∧ paper.Spares after := by
  cases h with
  | spared spares issues takes => exact ⟨takes, spares⟩
  | tookOff takesOff => exact absurd takesOff.ids_eq.1 hid

/-- Only what is on the book is filled. -/
theorem fillsOf_eq (h : paper.Does act response after) (hid : id ∉ paper.ids) :
    after.fillsOf id = paper.fillsOf id := by
  cases h with
  | spared spares =>
    obtain ⟨_, _, _, rfl⟩ := spares
    rfl
  | placed places => rw [fillsOf, places.numbers.2.2, fillsOf]
  | tookOff takesOff => rw [fillsOf, takesOff.numbers.2, fillsOf]
  | published ticker => exact (paper.setTicker_publishes ticker).fillsOf_eq hid
  | inserted | parted | endowed => rfl

end Does

end Does

/-! ## How an order ends -/

namespace Entry

/-- A cancel of an order succeeds. -/
def Cancels (entry : Entry) (id : OrderId) : Prop :=
  ∃ market, entry.act = .cancel market id ∧ entry.response = .cancelled true

/-- A ticker takes an order off the book, with one last fill. -/
structure Executes (entry : Entry) (id : OrderId) : Prop where
  published : ∃ ticker, entry.act = .publish ticker
  listed : id ∈ entry.before.ids
  gone : id ∉ entry.after.ids
  filled : ∃ fill, entry.after.fillsOf id = entry.before.fillsOf id ++ [fill]

/-- An order is taken off the book. -/
def Ends (entry : Entry) (id : OrderId) : Prop :=
  entry.Cancels id ∨ entry.Executes id

variable {entry : Entry} {id : OrderId}

theorem does (entry : Entry) : entry.before.Does entry.act entry.response entry.after :=
  does_perform entry.before entry.act

/-- A cancel that succeeds takes its order off. -/
theorem Cancels.takesOff (h : entry.Cancels id) :
    ∃ order, order.id = id ∧ entry.before.TakesOff order entry.after := by
  obtain ⟨market, hact, hresponse⟩ := h
  have hdoes := entry.does
  rw [hact, hresponse] at hdoes
  exact hdoes.takesOff_of_cancelled

/-- What cancels an order executes none. -/
theorem Cancels.not_executes (h : entry.Cancels id) {other : OrderId} : ¬entry.Executes other := by
  intro hexecutes
  obtain ⟨_, hcancel, -⟩ := h
  obtain ⟨_, hpublish⟩ := hexecutes.published
  cases hcancel.symm.trans hpublish

theorem Ends.listed (h : entry.Ends id) : id ∈ entry.before.ids := by
  obtain hcancels | hexecutes := h
  · obtain ⟨order, rfl, htakes⟩ := hcancels.takesOff
    exact htakes.ids_eq.1
  · exact hexecutes.listed

/-- An order that is taken off is not on the book any more. -/
theorem Ends.gone (h : entry.Ends id) (hnodup : entry.before.ids.Nodup) :
    id ∉ entry.after.ids := by
  obtain hcancels | hexecutes := h
  · obtain ⟨order, rfl, htakes⟩ := hcancels.takesOff
    rw [htakes.ids_eq.2]
    exact hnodup.not_mem_erase
  · exact hexecutes.gone

/-- An order that is no longer on the book was taken off it. -/
theorem ends_of_gone (hnodup : entry.before.ids.Nodup) (hlisted : id ∈ entry.before.ids)
    (hgone : id ∉ entry.after.ids) : entry.Ends id := by
  obtain hcancels | ⟨ticker, hact, hafter⟩ := entry.does.gone_inv hlisted hgone
  · exact .inl hcancels
  · have hpublishes : entry.before.Publishes ticker entry.after :=
      hafter ▸ entry.before.setTicker_publishes ticker
    exact .inr ⟨⟨ticker, hact⟩, hlisted, hgone,
      hpublishes.fillsOf_of_gone hnodup hlisted hgone⟩

end Entry

/-! ## Where the orders are -/

section Standing

variable {log : List Entry} {paper : Paper} {id : OrderId}

/-- An order was taken off the book once, and nothing of it was filled since. -/
def Ended (log : List Entry) (paper : Paper) (id : OrderId) : Prop :=
  ∃ earlier entry later, log = earlier ++ entry :: later ∧ entry.Ends id ∧
    (∀ other ∈ earlier ++ later, ¬other.Ends id) ∧ paper.fillsOf id = entry.after.fillsOf id

/--
Every order that was issued is on the book, or it was taken off once and is not on it
any more.
-/
structure Standing (log : List Entry) (paper : Paper) : Prop where
  issued_eq : issued log = (List.range' 1 (issued log).length).map .ofNat
  nextId_eq : paper.nextId = (issued log).length + 1
  listed : paper.ids.Sublist (issued log)
  ends_issued : ∀ entry ∈ log, ∀ id, entry.Ends id → id ∈ issued log
  stands : ∀ id ∈ issued log,
    (id ∈ paper.ids ∧ ∀ entry ∈ log, ¬entry.Ends id) ∨ id ∉ paper.ids ∧ Ended log paper id

theorem issued_append (log : List Entry) (entry : Entry) :
    issued (log ++ [entry]) = issued log ++ entry.issued?.toList := by
  rw [issued, List.filterMap_append]
  rfl

namespace Standing

theorem nodup_issued (h : Standing log paper) : (issued log).Nodup := by
  rw [h.issued_eq]
  exact (List.nodup_range' ..).map fun _ _ => OrderId.ofNat_inj.mp

theorem nodup_ids (h : Standing log paper) : paper.ids.Nodup :=
  h.nodup_issued.sublist h.listed

/-- The next number was not given out yet. -/
theorem next_not_issued (h : Standing log paper) : OrderId.ofNat paper.nextId ∉ issued log := by
  rw [h.issued_eq, h.nextId_eq]
  intro hmem
  obtain ⟨n, hn, heq⟩ := List.mem_map.mp hmem
  have hnext := OrderId.ofNat_inj.mp heq
  have hrange := List.mem_range'_1.mp hn
  omega

/-- Whatever is done, an order stays on the book, is taken off it, or stays off it. -/
theorem stands_after (h : Standing log paper) (act : Act) (hid : id ∈ issued log) :
    (id ∈ (act.perform paper).2.ids ∧ ∀ entry ∈ log ++ [⟨paper, act⟩], ¬entry.Ends id) ∨
      id ∉ (act.perform paper).2.ids ∧ Ended (log ++ [⟨paper, act⟩]) (act.perform paper).2 id := by
  have hdoes := paper.does_perform act
  obtain ⟨hlisted, hnever⟩ | ⟨hoff, earlier, entry, later, rfl, hends, honce, hfills⟩ :=
    h.stands id hid
  · by_cases hstays : id ∈ (act.perform paper).2.ids
    · refine .inl ⟨hstays, List.forall_mem_append.mpr ⟨hnever, List.forall_mem_singleton.mpr ?_⟩⟩
      exact fun hends => hends.gone h.nodup_ids hstays
    · have hends : Entry.Ends ⟨paper, act⟩ id := Entry.ends_of_gone h.nodup_ids hlisted hstays
      exact .inr ⟨hstays, log, _, [], rfl, hends, by simpa using hnever, rfl⟩
  · refine .inr ⟨fun hmem => ?_, earlier, entry, later ++ [⟨paper, act⟩], ?_, hends, ?_, ?_⟩
    · obtain hmem | rfl := hdoes.mem_ids hmem
      · exact hoff hmem
      · exact h.next_not_issued hid
    · rw [List.append_assoc, List.cons_append]
    · rw [← List.append_assoc]
      exact List.forall_mem_append.mpr
        ⟨honce, List.forall_mem_singleton.mpr fun hends => hoff hends.listed⟩
    · exact (hdoes.fillsOf_eq hoff).trans hfills

/-- An order that is issued was never issued before, and goes on the book. -/
theorem perform_of_issued (h : Standing log paper) {act : Act}
    (hissued : issued (log ++ [⟨paper, act⟩]) = issued log ++ [.ofNat paper.nextId])
    (hnext : (act.perform paper).2.nextId = paper.nextId + 1)
    (hids : (act.perform paper).2.ids = paper.ids ++ [.ofNat paper.nextId]) :
    Standing (log ++ [⟨paper, act⟩]) (act.perform paper).2 := by
  have hends : ∀ entry ∈ log ++ [⟨paper, act⟩], ∀ id, entry.Ends id → id ∈ issued log :=
    List.forall_mem_append.mpr ⟨h.ends_issued,
      List.forall_mem_singleton.mpr fun id hends => h.listed.subset hends.listed⟩
  refine ⟨?_, ?_, ?_, ?_, ?_⟩
  · rw [hissued, List.length_append, List.length_singleton, List.range'_1_concat, List.map_append,
      ← h.issued_eq, h.nextId_eq, Nat.add_comm 1]
    rfl
  · rw [hnext, h.nextId_eq, hissued, List.length_append, List.length_singleton]
  · rw [hissued, hids]
    exact h.listed.append (.refl _)
  · rw [hissued]
    exact fun entry hentry id hid => List.mem_append_left _ (hends entry hentry id hid)
  · rw [hissued]
    refine List.forall_mem_append.mpr
      ⟨fun id => h.stands_after act, List.forall_mem_singleton.mpr (.inl ⟨?_, ?_⟩)⟩
    · rw [hids]
      exact List.mem_append_right _ (List.mem_singleton_self _)
    · exact fun entry hentry hid => h.next_not_issued (hends entry hentry _ hid)

/--
An act that issues no order and puts none on the book leaves every order standing as
it can.
-/
theorem perform_of_none (h : Standing log paper) {act : Act}
    (hissued : issued (log ++ [⟨paper, act⟩]) = issued log)
    (hnext : (act.perform paper).2.nextId = paper.nextId)
    (hids : (act.perform paper).2.ids.Sublist paper.ids) :
    Standing (log ++ [⟨paper, act⟩]) (act.perform paper).2 := by
  refine ⟨?_, ?_, ?_, ?_, ?_⟩ <;> rw [hissued]
  · exact h.issued_eq
  · rw [hnext, h.nextId_eq]
  · exact hids.trans h.listed
  · exact List.forall_mem_append.mpr ⟨h.ends_issued,
      List.forall_mem_singleton.mpr fun id hends => h.listed.subset hends.listed⟩
  · exact fun id => h.stands_after act

/-- **The step.** Whatever is done, the orders are where they should be. -/
theorem perform (h : Standing log paper) (act : Act) :
    Standing (log ++ [⟨paper, act⟩]) (act.perform paper).2 := by
  have hissued := issued_append log ⟨paper, act⟩
  obtain ⟨hresponse, hnext, hids⟩ | ⟨hnone, hnext, hids⟩ :=
    (paper.does_perform act).issued_inv
  · refine h.perform_of_issued ?_ hnext hids
    rw [hissued, Entry.issued?, Entry.response, hresponse]
    rfl
  · refine h.perform_of_none ?_ hnext hids
    have hnothing : Entry.issued? ⟨paper, act⟩ = none := by
      unfold Entry.issued?
      split
      next id hid => exact absurd hid (hnone id)
      next => rfl
    rw [hissued, hnothing]
    exact List.append_nil _

/-- **The run.** And so they are after one act and the other. -/
theorem afterAll (h : Standing log paper) (acts : List Act) :
    Standing (log ++ paper.record acts) (paper.afterAll acts) := by
  induction acts generalizing log paper with
  | nil => rwa [record, List.append_nil]
  | cons act rest ih =>
    rw [record, List.append_cons]
    exact ih (h.perform act)

/-- An order that is off the book stays off it: it is neither filled nor taken off again. -/
theorem staysOff (h : Standing log paper) (hid : id ∈ issued log) (hoff : id ∉ paper.ids)
    (acts : List Act) :
    id ∉ (paper.afterAll acts).ids ∧ (paper.afterAll acts).fillsOf id = paper.fillsOf id ∧
      ∀ entry ∈ paper.record acts, ¬entry.Ends id := by
  induction acts generalizing log paper with
  | nil =>
    rw [Paper.afterAll, record]
    exact ⟨hoff, rfl, List.forall_mem_nil _⟩
  | cons act rest ih =>
    have hdoes := paper.does_perform act
    have hid' : id ∈ issued (log ++ [⟨paper, act⟩]) := by
      rw [issued_append]
      exact List.mem_append_left _ hid
    have hoff' : id ∉ (act.perform paper).2.ids := by
      intro hmem
      obtain hmem | rfl := hdoes.mem_ids hmem
      · exact hoff hmem
      · exact h.next_not_issued hid
    obtain ⟨hafter, hfills, hnever⟩ := ih (h.perform act) hid' hoff'
    exact ⟨hafter, hfills.trans (hdoes.fillsOf_eq hoff),
      List.forall_mem_cons.mpr ⟨fun hends => hoff hends.listed, hnever⟩⟩

end Standing

/-- Where an order is that was issued. -/
inductive Place where
  | onBook
  | cancelled
  | executed

/--
An order is on the book; or the only cancel of it that ever succeeded took it off; or a
ticker took it off with the last of its fills.
-/
def Lies (log : List Entry) (paper : Paper) (id : OrderId) : Place → Prop
  | .onBook => id ∈ paper.ids
  | .cancelled => ∃ earlier entry later, log = earlier ++ entry :: later ∧ entry.Cancels id ∧
      ∀ other ∈ earlier ++ later, ¬other.Cancels id
  | .executed => ∃ entry ∈ log, entry.Executes id ∧ paper.fillsOf id = entry.after.fillsOf id

theorem Standing.lies (h : Standing log paper) (hid : id ∈ issued log) :
    ∃! place, Lies log paper id place := by
  obtain ⟨hlisted, hnever⟩ | ⟨hoff, earlier, entry, later, rfl, hends, honce, hfills⟩ :=
    h.stands id hid
  -- on the book, so no act has taken it off
  · refine ⟨.onBook, hlisted, fun place hplace => ?_⟩
    cases place with
    | onBook => rfl
    | cancelled =>
      obtain ⟨_, entry, _, rfl, hcancels, -⟩ := hplace
      exact absurd (.inl hcancels) (hnever entry (by simp))
    | executed =>
      obtain ⟨entry, hentry, hexecutes, -⟩ := hplace
      exact absurd (.inr hexecutes) (hnever entry hentry)
  · -- no other act took the order off the book
    have honly : ∀ other ∈ earlier ++ entry :: later, other.Ends id → other = entry := by
      intro other hother hends'
      by_contra hne
      refine honce other ?_ hends'
      simpa [hne] using hother
    obtain hcancels | hexecutes := hends
    · refine ⟨.cancelled, ⟨earlier, entry, later, rfl, hcancels, ?_⟩,
        fun place hplace => ?_⟩
      · exact fun other hother hcancels' => honce other hother (.inl hcancels')
      · cases place with
        | onBook => exact absurd hplace hoff
        | cancelled => rfl
        | executed =>
          obtain ⟨other, hother, hexecutes, -⟩ := hplace
          obtain rfl := honly other hother (.inr hexecutes)
          exact absurd hexecutes hcancels.not_executes
    · refine ⟨.executed, ⟨entry, by simp, hexecutes, hfills⟩, fun place hplace => ?_⟩
      cases place with
      | onBook => exact absurd hplace hoff
      | cancelled =>
        obtain ⟨earlier', other, later', hlog, hcancels, -⟩ := hplace
        obtain rfl := honly other (hlog ▸ by simp) (.inl hcancels)
        exact absurd hexecutes hcancels.not_executes
      | executed => rfl

end Standing

/-! ## The life of an order -/

/-- What becomes of the orders of a paper venue, as far as a record goes and from there on. -/
structure Lifecycle (log : List Entry) (paper : Paper) : Prop where
  issued_eq : issued log = (List.range' 1 (issued log).length).map .ofNat
  nodup : (issued log).Nodup
  /-- The orders on the book are in the order in which they were issued. -/
  inOrder : paper.ids.Sublist (issued log)
  place : ∀ id ∈ issued log, ∃! place, Lies log paper id place
  /-- What is off the book stays off it: it is not filled, and no cancel of it succeeds. -/
  staysOff : ∀ id ∈ issued log, id ∉ paper.ids → ∀ acts,
    id ∉ (paper.afterAll acts).ids ∧ (paper.afterAll acts).fillsOf id = paper.fillsOf id ∧
      ∀ entry ∈ paper.record acts, ¬entry.Cancels id
  does : ∀ entry ∈ log, entry.before.Does entry.act entry.response entry.after
  /-- An act that fails, such as an order that is refused, changes nothing but the counts. -/
  failed : ∀ entry ∈ log, ∀ error, entry.response = .failed error → entry.before.Spares entry.after
  /-- Nor does a cancel of what is not on the book, and it never succeeds. -/
  unlisted : ∀ entry ∈ log, ∀ market id, entry.act = .cancel market id → id ∉ entry.before.ids →
    entry.response ≠ .cancelled true ∧ entry.before.Spares entry.after
  published : ∀ entry ∈ log, ∀ ticker, entry.act = .publish ticker →
    entry.before.Publishes ticker entry.after

/--
**The life of an order.** Whatever is done to a paper venue that is new, it gives out the
numbers from one on, and each order that was issued is on the book, or was cancelled by the
only cancel of it that succeeded, or was taken off by the ticker that filled it last.
-/
theorem lifecycle_afterAll (market : Market) (fee minimumVolume tolerance : Float)
    (acts : List Act) :
    Lifecycle ((new market fee minimumVolume tolerance).record acts)
      ((new market fee minimumVolume tolerance).afterAll acts) := by
  have hnew : Standing [] (new market fee minimumVolume tolerance) :=
    ⟨rfl, rfl, .refl _, List.forall_mem_nil _, List.forall_mem_nil _⟩
  have h := hnew.afterAll acts
  rw [List.nil_append] at h
  refine ⟨h.issued_eq, h.nodup_issued, h.listed, fun id => h.lies, ?_, fun entry _ => entry.does,
    ?_, ?_, ?_⟩
  · intro id hid hoff acts
    obtain ⟨hafter, hfills, hnever⟩ := h.staysOff hid hoff acts
    exact ⟨hafter, hfills, fun entry hentry hcancels => hnever entry hentry (.inl hcancels)⟩
  · intro entry _ error hresponse
    exact (hresponse ▸ entry.does).spares_of_failed
  · intro entry _ market id hact hid
    exact (hact ▸ entry.does).spares_of_unlisted hid
  · intro entry _ ticker hact
    rw [Entry.after, hact]
    exact entry.before.setTicker_publishes ticker

/-- A purchase that is filled, one that is cancelled at the second attempt, and one that stays. -/
example :
    let market := Market.ofCurrencies "BTC" "EUR"
    let paper := (new market 0.0 0.1 0.005).afterAll
      [.setBalance "EUR" 1000.0, .create market .buy 1.0 101.0, .create market .buy 1.0 100.0,
        .create market .buy 1.0 99.0, .fail 1 0 0, .cancel market (.ofNat 2),
          .cancel market (.ofNat 2),
        .publish narrow]
    paper.ids = [.ofNat 3] ∧ paper.fills.map (·.orderId) = [.ofNat 1] ∧ paper.nextId = 4 := by
  decide +kernel

end Paper

end SwingTrader
