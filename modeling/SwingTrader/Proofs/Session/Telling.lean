import SwingTrader.Proofs.Session.PaperBook

/-!
# SwingTrader — what a paper venue tells of a session

What is on the book and what is held tell the phase that a session is in, as long
as no fill goes unseen. A position that was not opened yet leaves no more held than
the least volume of an order, and a purchase that is untouched has added nothing.

* `Tracker.Telling` — the venue tells the stage; every turn keeps it;
* `Paper.Openly` — what may happen at the venue between two ticks so that no fill
  goes unseen;
* `Tracker.Settled` — the order that is awaited is on the book, after every tick
  that went well.
-/

namespace SwingTrader

variable {κ : Type}

open Desk Tracker

/-! ## What is held in each stage -/

namespace Paper

/-- No more is held than the least volume of an order, as far as this is a number at all. -/
def Flat (paper : Paper) : Prop :=
  paper.held.isFinite → paper.held ≤ paper.terms.minimumVolume

/-- Nothing of the order on the book is seen to be filled. -/
def Untouched (paper : Paper) : Prop :=
  ∃ order ∈ paper.orders, order.isPartiallyFilled = false

section Flat

variable {paper after : Paper}

theorem Flat.congr (h : paper.Flat) (hterms : after.terms = paper.terms)
    (hheld : after.held = paper.held) : after.Flat := by
  rw [Flat, hterms, hheld]
  exact h

theorem Flat.spares (h : paper.Flat) (hspares : paper.Spares after) : after.Flat := by
  obtain ⟨_, _, _, rfl⟩ := hspares
  exact h

/-- A venue stays flat when an order is placed, except to sell. -/
theorem Flat.places {order : PlacedOrder} (h : paper.Flat) (hplaces : paper.Places order after)
    (hdiffer : paper.terms.market.base ≠ paper.terms.market.counter) (hkind : order.kind ≠ .sell) :
    after.Flat :=
  h.congr hplaces.terms_eq ((hplaces.held_eq hdiffer).trans (if_neg hkind))

/-- A venue stays flat when an order is taken off that is not to sell. -/
theorem Flat.takesOff {order : OpenOrder} {placed : PlacedOrder} (h : paper.Flat)
    (hbook : paper.KeepsOnly placed) (htakes : paper.TakesOff order after)
    (hdiffer : paper.terms.market.base ≠ paper.terms.market.counter) (hkind : placed.kind ≠ .sell) :
    after.Flat := by
  obtain ⟨horders, -⟩ := htakes.orders_eq hbook.atMostOne
  have horder : order.kind ≠ .sell := (hbook.isOf horders).kind_eq ▸ hkind
  exact h.congr htakes.terms_eq ((htakes.held_eq hdiffer).trans (if_neg horder))

/-- A venue stays flat when a ticker fills what is on the book, except to buy. -/
theorem Flat.setTicker {placed : PlacedOrder} {ticker : Ticker} (h : paper.Flat)
    (hbook : paper.KeepsOnly placed) (hkind : placed.kind ≠ .buy)
    (hdiffer : paper.terms.market.base ≠ paper.terms.market.counter) :
    (paper.setTicker ticker).Flat :=
  h.congr (setTicker_terms paper ticker) (held_setTicker hbook hkind hdiffer)

end Flat

end Paper

namespace Tracker

/-- A position is held in the stages of a long, and in no other. -/
def Accords (paper : Paper) : Option Stage → Prop
  | none | some .needEnter => paper.Flat
  | some (.waitForEnter entry) =>
    entry.kind.isEnter = true ∧ (entry.side = .short ∨ paper.Untouched → paper.Flat)
  | some (.needExit entry _) | some (.waitForExit entry _ _) => entry.side = .short → paper.Flat

/-- The venue tells the stage, apart from an order that was filled meanwhile. -/
structure Telling (market : Market) (paper : Paper) (stage? : Option Stage) : Prop where
  inStep : InStep market paper stage?
  market_eq : market = paper.terms.market
  differ : market.base ≠ market.counter
  positive : 0.0 < paper.terms.minimumVolume
  accords : Accords paper stage?

section Turns

variable {market : Market} {paper after : Paper} {stage? stage?' : Option Stage}

/-- What opens a position does not sell. -/
theorem ne_sell_of_isEnter {kind : OrderKind} (h : kind.isEnter = true) : kind ≠ .sell := by
  rintro rfl
  cases h

/-- Whatever opens a position and is no purchase opens a short. -/
theorem short_of_isEnter {kind : OrderKind} (h : kind.isEnter = true) (hbuy : kind ≠ .buy) :
    kind.side = .short := by
  cases kind with
  | buy => exact absurd rfl hbuy
  | shortEnter => rfl
  | sell | shortExit => cases h

/-- The exit of a short moves nothing that is held. -/
theorem ne_of_exit {kind : OrderKind} {side : Side} (h : kind = side.exitKind)
    (hshort : side = .short) : kind ≠ .buy ∧ kind ≠ .sell := by
  subst hshort h
  exact ⟨nofun, nofun⟩

theorem Turn.terms_eq (h : Turn market paper stage? after stage?') : after.terms = paper.terms := by
  cases h with
  | spare spares | fill _ spares | flat _ _ spares | held _ _ _ spares | adoptEntry _ _ spares
  | adoptExit _ _ spares => exact spares.terms_eq
  | enter _ places | leave _ _ places => exact places.terms_eq
  | waitEnter | waitExit => rfl
  | giveUp _ _ takesOff | takePart _ _ _ _ _ takesOff | withdraw _ takesOff =>
    exact takesOff.terms_eq

theorem Accords.spares (h : Accords paper stage?) (hspares : paper.Spares after) :
    Accords after stage? := by
  obtain ⟨_, _, _, rfl⟩ := hspares
  rcases stage? with _ | _ | _ | _ | _ <;> exact h

/-- After a turn a position is held in the stages of a long, and in no other. -/
theorem Turn.accords (h : Turn market paper stage? after stage?')
    (htold : Telling market paper stage?) :
    Accords after stage?' := by
  -- only a sale moves what is held, and a sale is only placed for a long
  obtain ⟨hstep, rfl, hdiffer, hpositive, haccords⟩ := htold
  cases h with
  | spare spares => exact haccords.spares spares
  | enter enters places =>
    exact ⟨enters, fun _ => Paper.Flat.places haccords places hdiffer (ne_sell_of_isEnter enters)⟩
  | leave leaves whole places =>
    intro hshort
    exact (haccords hshort).places places hdiffer (ne_of_exit leaves hshort).2
  | waitEnter counted =>
    refine ⟨counted.kind_eq ▸ haccords.1, ?_⟩
    rw [counted.side_eq]
    exact haccords.2
  | waitExit counted => exact haccords
  | fill missing spares => exact fun hshort => (haccords.2 (.inl hshort)).spares spares
  | giveUp id_eq whole takesOff =>
    -- an order is only given up as long as nothing of it was filled
    obtain ⟨hbook, -⟩ := takesOff.orders_eq (Paper.KeepsOnly.atMostOne hstep)
    have hflat := haccords.2 (.inr ⟨_, hbook ▸ List.mem_singleton_self _, whole⟩)
    exact hflat.takesOff hstep takesOff hdiffer (ne_sell_of_isEnter haccords.1)
  | takePart id_eq part side_eq price_eq held takesOff =>
    intro hshort
    have hflat := haccords.2 (.inl (side_eq.symm.trans hshort))
    exact hflat.takesOff hstep takesOff hdiffer (ne_sell_of_isEnter haccords.1)
  | withdraw id_eq takesOff =>
    intro hshort
    exact (haccords hshort).takesOff hstep.1 takesOff hdiffer (ne_of_exit hstep.2.1 hshort).2
  | flat empty not_above spares => exact Paper.Flat.spares (fun _ => not_above) spares
  | held empty above side_eq spares =>
    intro hshort
    cases side_eq.symm.trans hshort
  | adoptEntry alone enters spares => cases hstep.symm.trans alone
  | adoptExit alone leaves spares => cases hstep.symm.trans alone

/-- A turn keeps the tracker telling what is on the book. -/
theorem Turn.telling (h : Turn market paper stage? after stage?')
    (htold : Telling market paper stage?) : Telling market after stage?' where
  inStep := inStep_keptByTurns h htold.inStep
  market_eq := by rw [h.terms_eq, htold.market_eq]
  differ := htold.differ
  positive := by
    rw [h.terms_eq]
    exact htold.positive
  accords := h.accords htold

/-- An entry that is cut off is not on the book any more, and leaves what was held. -/
theorem Telling.cutOff {entry : PlacedOrder} {order : OpenOrder} (hid : order.id = entry.id)
    (hpart : order.isPartiallyFilled = true) (htakes : paper.TakesOff order after)
    (h : Telling market paper (some (.waitForEnter entry))) :
    Telling market after (some (.waitForEnter entry)) := by
  obtain ⟨hstep, rfl, hdiffer, hpositive, henters, hflat⟩ := h
  obtain ⟨-, hempty⟩ := htakes.orders_eq (Paper.KeepsOnly.atMostOne hstep)
  refine ⟨inStep_kept.cutOff hid hpart htakes hstep, ?_, hdiffer, ?_, henters, ?_⟩
  · rw [htakes.terms_eq]
  · rw [htakes.terms_eq]
    exact hpositive
  · rintro (hshort | ⟨listed, hlisted, -⟩)
    · exact (hflat (.inl hshort)).takesOff hstep htakes hdiffer (ne_sell_of_isEnter henters)
    · rw [hempty] at hlisted
      cases hlisted

/-- The exit of a long took all that was held, and a short never held anything. -/
theorem Telling.close {entry exit : PlacedOrder} {ratchet : Ratchet}
    (hmissing : paper.orders.find? (fun order => order.id = exit.id) = none)
    (hspares : paper.Spares after)
    (h : Telling market paper (some (.waitForExit entry exit ratchet))) :
    Telling market after (some .needEnter) := by
  obtain ⟨hstep, rfl, hdiffer, hpositive, haccords⟩ := h
  refine ⟨inStep_kept.close hmissing hspares hstep, ?_, hdiffer, ?_,
    Paper.Flat.spares ?_ hspares⟩
  · rw [hspares.terms_eq]
  · rw [hspares.terms_eq]
    exact hpositive
  · cases hside : entry.side with
    | long =>
      intro hfinite
      have hleft := hstep.2.2
      rw [hside] at hleft
      rw [hleft rfl hdiffer hfinite]
      exact Double.le_of_lt hpositive
    | short => exact haccords hside

/-- That the venue tells the stage is kept by whatever a tracker does there. -/
theorem telling_kept : Kept Telling where
  turn := fun _ _ _ _ _ => Turn.telling
  cutOff := Telling.cutOff
  close := Telling.close

end Turns

end Tracker

/-! ## Between two ticks -/

namespace Paper

/-- What a ticker fills of a purchase that stays open shows in what is left of it. -/
def Shows (paper : Paper) (ticker : Ticker) : Prop :=
  ∀ order ∈ paper.orders, order.kind = .buy → reaches paper.terms ticker order = true →
    ∀ rest ∈ (paper.setTicker ticker).orders, rest.id = order.id → rest.isPartiallyFilled = true

instance (paper : Paper) (ticker : Ticker) : Decidable (paper.Shows ticker) :=
  inferInstanceAs (Decidable (∀ order ∈ paper.orders, order.kind = .buy →
    reaches paper.terms ticker order = true →
      ∀ rest ∈ (paper.setTicker ticker).orders, rest.id = order.id → rest.isPartiallyFilled = true))

/-- What may happen at a paper venue between two ticks so that no fill goes unseen. -/
inductive Openly (paper : Paper) : Paper → Prop where
  | ticker (ticker : Ticker) (shows : paper.Shows ticker) : Openly paper (paper.setTicker ticker)
  | partialFill (fraction : Option Float) : Openly paper { paper with partialFill := fraction }
  | failing (cancels calls afterCancel : Nat) :
      Openly paper (paper.failing cancels calls afterCancel)

/-- What happens openly may happen between two ticks. -/
theorem Openly.meanwhile {paper after : Paper} (h : paper.Openly after) :
    paper.Meanwhile after := by
  cases h with
  | ticker ticker => exact .ticker ticker
  | partialFill fraction => exact .partialFill fraction
  | failing cancels calls afterCancel => exact .failing cancels calls afterCancel

/-- A ticker after which a purchase is untouched has not touched it. -/
theorem Untouched.of_setTicker {paper : Paper} {placed : PlacedOrder} {ticker : Ticker}
    (h : (paper.setTicker ticker).Untouched) (hbook : paper.KeepsOnly placed)
    (hkind : placed.kind = .buy) (hshows : paper.Shows ticker) :
    paper.Untouched ∧ paper.setTicker ticker = { paper with ticker := some ticker } := by
  obtain ⟨rest, hrest, hwhole⟩ := h
  have hsame : paper.setTicker ticker = { paper with ticker := some ticker } := by
    have hleft : (paper.setTicker ticker).KeepsOnly placed := hbook.setTicker
    obtain hempty | ⟨order, horders, horder⟩ := hbook
    · exact setTicker_of_nil hempty
    · rw [setTicker_of_singleton horders]
      -- had the ticker reached the order, it would show in the rest
      refine if_neg fun hreaches => ?_
      obtain hempty | ⟨listed, hlisted, hof⟩ := hleft
      · rw [hempty] at hrest
        cases hrest
      · have hid : rest.id = order.id := by
          rw [hlisted] at hrest
          rw [List.mem_singleton.mp hrest, hof.id_eq, horder.id_eq]
        have hpart := hshows order (horders ▸ List.mem_singleton_self _)
          (horder.kind_eq.trans hkind) hreaches rest hrest hid
        cases hpart.symm.trans hwhole
  refine ⟨⟨rest, ?_, hwhole⟩, hsame⟩
  rw [hsame] at hrest
  exact hrest

end Paper

namespace Tracker

variable {market : Market} {paper after : Paper} {stage? : Option Stage}

/-- After a ticker whose fills show, a position is held in the stages of a long only. -/
theorem Accords.setTicker {ticker : Ticker} (h : Telling market paper stage?)
    (hshows : paper.Shows ticker) : Accords (paper.setTicker ticker) stage? := by
  obtain ⟨hstep, rfl, hdiffer, -, haccords⟩ := h
  have hnil : paper.orders = [] → paper.Flat → (paper.setTicker ticker).Flat := by
    intro hempty hflat
    rw [Paper.setTicker_of_nil hempty]
    exact hflat
  rcases stage? with _ | _ | entry | _ | ⟨entry, exit, _⟩
  · exact hnil hstep haccords
  · exact hnil hstep haccords
  · refine ⟨haccords.1, ?_⟩
    intro hleft
    -- only the fill of a purchase adds to what is held
    by_cases hkind : entry.kind = .buy
    · have hlong : entry.side ≠ .short := by
        rw [PlacedOrder.side, hkind]
        decide
      obtain ⟨huntouched, hsame⟩ := (hleft.resolve_left hlong).of_setTicker hstep hkind hshows
      rw [hsame]
      exact haccords.2 (.inr huntouched)
    · refine (haccords.2 (.inl ?_)).setTicker hstep hkind hdiffer
      exact short_of_isEnter haccords.1 hkind
  · exact fun hshort => hnil hstep (haccords hshort)
  · intro hshort
    exact (haccords hshort).setTicker hstep.1 (ne_of_exit hstep.2.1 hshort).1 hdiffer

/-- What happens in the open between two ticks leaves the venue telling the stage. -/
theorem Telling.openly (h : Telling market paper stage?) (hchange : paper.Openly after) :
    Telling market after stage? := by
  have hstep := h.inStep.meanwhile hchange.meanwhile
  cases hchange with
  | ticker ticker shows =>
    refine ⟨hstep, ?_, h.differ, ?_, .setTicker h shows⟩
    · rw [Paper.setTicker_terms, h.market_eq]
    · rw [Paper.setTicker_terms]
      exact h.positive
  | partialFill fraction =>
    refine ⟨hstep, h.market_eq, h.differ, h.positive, ?_⟩
    have haccords := h.accords
    rcases stage? with _ | _ | _ | _ | _ <;> exact haccords
  | failing => exact ⟨hstep, h.market_eq, h.differ, h.positive, h.accords.spares ⟨_, _, _, rfl⟩⟩

end Tracker

/-! ## After a tick that went well -/

namespace Tracker

/-- A stage was found, and the order that it waits for is on the book. -/
structure Settled (market : Market) (paper : Paper) (stage? : Option Stage) : Prop where
  found : stage?.isSome
  listed : ∀ order, stage?.bind awaited = some order → paper.orders ≠ []

section Courses

variable {desk after : Desk Paper κ}

theorem found_keptByTurns : KeptByTurns fun _ _ stage? => stage?.isSome := by
  intro market paper after stage? stage?' hturn h
  cases hturn with
  | spare => exact h
  | _ => rfl

/-- A turn leaves a tracker settled: an order that it begins to wait for is on the book. -/
theorem settled_keptByTurns : KeptByTurns Settled := by
  intro market paper after stage? stage?' hturn h
  refine ⟨found_keptByTurns hturn h.found, ?_⟩
  intro order hawaited
  cases hturn with
  | spare spares =>
    rw [spares.orders_eq]
    exact h.listed order hawaited
  | enter _ places | leave _ _ places =>
    rw [places.orders_eq]
    simp
  | waitEnter | waitExit => exact h.listed _ rfl
  | fill | giveUp | takePart | withdraw | flat | held => cases hawaited
  | adoptEntry | adoptExit => cases h.found

/-- A tracker that has found a stage has one. -/
theorem Found.stage_isSome (h : Found Paper.venue desk after) : after.tracker.stage.isSome := by
  cases h with
  | known stage_eq => rw [stage_eq]; rfl
  | finds finding => cases finding <;> rfl

end Courses

end Tracker

/-- After a course that went well the order that is awaited is on the book. -/
theorem Course.settled {desk after : Desk Paper κ} {closed? : Option ClosedTrade}
    (h : Course Paper.venue desk (.ok closed?) after) (hfresh : desk.Fresh) :
    Settled after.market after.venue after.tracker.stage := by
  cases h with
  | closes found closing =>
    cases closing
    exact ⟨rfl, nofun⟩
  | @goesOn mid _ _ found proceeds no_trade attends =>
    have hmid := fresh_of_turns (found.turns hfresh) hfresh
    have hturns := proceeds.moves_of_ok.turns hmid
    -- the order that was awaited has been looked up, and from then on the book is watched
    cases hawaited : mid.tracker.stage.bind awaited with
    | none =>
      refine settled_keptByTurns.of_turns hturns ⟨found.stage_isSome, ?_⟩
      -- nothing is awaited before the turns, so what is awaited after them was placed by one
      rw [hawaited]
      exact nofun
    | some order =>
      obtain ⟨listed?, seen, hfind, hmissing⟩ := attends closed? rfl order hawaited
      obtain ⟨-, hlisted⟩ := hmid.found_eq hfind
      cases listed? with
      | none =>
        -- an order that was missing is not awaited any more
        refine ⟨found_keptByTurns.of_turns hturns found.stage_isSome, ?_⟩
        rw [hmissing rfl]
        exact nofun
      | some listed =>
        refine settled_keptByTurns.of_turns hturns ⟨found.stage_isSome, fun _ _ hempty => ?_⟩
        rw [hempty] at hlisted
        cases hlisted

end SwingTrader
