import MoneyMarket.Proofs.Pool.Journal
import MoneyMarket.Proofs.Pool.Supplies

/-!
# Published switches

Whether a supply is used as collateral can be read off the events, up to the first liquidation that
switches a supply: it empties the borrower's collateral, or gives another account its first supply. The
other operations publish what they switch.
-/

namespace MoneyMarket

/-- The switch of a supply, on or off, that an event publishes. -/
def PoolEvent.Content.switch? (user asset : Key) : Content → Option Bool
  | collateralEnabled a u => if user = u.key ∧ asset = a.key then some true else none
  | collateralDisabled a u => if user = u.key ∧ asset = a.key then some false else none
  | _ => none

namespace Pool

open MoneyMarket.FixedPoint MoneyMarket.Ledger MoneyMarket.Supplies

variable {p : Pool} {op : Operation} {s t : Supplies} {contents : List PoolEvent.Content}

def lastSwitch? (p : Pool) (user asset : Key) : Option Bool :=
  (p.events.filterMap fun e => e.content.switch? user asset).getLast?

/-- The ledger that the work of an operation leaves, if it is done. -/
def worked? (p : Pool) (op : Operation) : Option Ledger :=
  (p.transaction? op).bind fun work =>
    match work p.ledger with
    | .ok _ m => some m
    | .error _ _ => none

def Operation.liquidation? : Operation → Option LiquidationCall
  | .liquidate c => some c
  | _ => none

/-- A liquidation is done, and it empties the collateral of the borrower, or gives an account its first
supply, which was not switched on before. -/
def SwitchesUnseen (p : Pool) (op : Operation) : Prop :=
  ∃ c ∈ op.liquidation?, ∃ m ∈ p.worked? op,
    m.supplies.held c.borrower c.collateralAsset = 0 ∨
    ∃ v ∈ c.receiver?, p.ledger.supplies.held v c.collateralAsset = 0 ∧
      p.ledger.supplies.flagged v c.collateralAsset = false

def NeverSwitchesUnseen (p : Pool) : List Operation → Prop
  | [] => True
  | op :: rest => ¬ p.SwitchesUnseen op ∧ NeverSwitchesUnseen (p.after op) rest

instance (p : Pool) (op : Operation) : Decidable (p.SwitchesUnseen op) :=
  inferInstanceAs (Decidable (∃ c ∈ op.liquidation?, ∃ m ∈ p.worked? op, _ ∨ ∃ v ∈ c.receiver?, _))

instance decidableNeverSwitchesUnseen (p : Pool) :
    (ops : List Operation) → Decidable (p.NeverSwitchesUnseen ops)
  | [] => .isTrue trivial
  | _ :: rest => @instDecidableAnd _ _ _ (decidableNeverSwitchesUnseen (p.after _) rest)

/-! ## One operation -/

/-- What is published tells which supplies are switched on. -/
def Told (p : Pool) : Prop :=
  ∀ user asset, p.ledger.supplies.flagged user asset = true ↔ p.lastSwitch? user asset = some true

/-- Between two states of the supplies, their switches are what was published last of them. -/
def Tells (s : Supplies) (contents : List PoolEvent.Content) (t : Supplies) : Prop :=
  ∀ user asset, t.flagged user asset =
    (contents.filterMap (·.switch? user asset)).getLast?.getD (s.flagged user asset)

theorem tells_nothing (hplain : ∀ c ∈ contents, ∀ u a, c.switch? u a = none)
    (hflag : t.flagged = s.flagged) : Tells s contents t := by
  intro u a
  rw [List.filterMap_eq_nil_iff.2 fun c hc => hplain c hc u a, hflag]
  rfl

theorem tells_switch (enabled : Bool) {asset user : Name}
    (hplain : ∀ c ∈ contents, ∀ u a, c.switch? u a = none)
    (hflag : t.flagged = (s.switch user asset enabled).flagged) :
    Tells s (collateralSwitched enabled asset user :: contents) t := by
  intro u a
  have hrest := List.filterMap_eq_nil_iff.2 fun c hc => hplain c hc u a
  have hfirst : (collateralSwitched enabled asset user).switch? u a =
      if u = user.key ∧ a = asset.key then some enabled else none := by
    cases enabled <;> rfl
  rw [List.filterMap_cons, hfirst, hrest, hflag, flagged_switch]
  split <;> rfl

theorem Handles.tells (h : Handles s op contents t) (hop : op.liquidation? = none) :
    Tells s contents t := by
  have plain {c : PoolEvent.Content} (hc : ∀ u a, c.switch? u a = none) :
      ∀ c' ∈ [c], ∀ u a, c'.switch? u a = none := by simpa using hc
  cases h with
  | borrow | repay | switchMargin | liquidateMargin => exact tells_nothing (plain fun _ _ => rfl) rfl
  | switch => exact tells_switch _ (List.forall_mem_nil _) rfl
  | @deposit _ _ _ _ first =>
    cases first with
    | false => exact tells_nothing (plain fun _ _ => rfl) rfl
    | true => exact tells_switch true (plain fun _ _ => rfl) rfl
  | @withdraw asset user _ _ _ x _ emptied hemptied hx hle =>
    have hleft : (s.add user asset (-x)).held user asset = s.held user asset - x := by
      simp [Int.sub_eq_add_neg]
    cases emptied with
    | false =>
      refine tells_nothing (plain fun _ _ => rfl) ?_
      by_cases hempty : s.held user asset = x
      · have hflag : s.flagged user asset = false := by simpa [hempty] using hemptied
        rw [retire_of_unflagged (s := s.add user asset (-x)) hflag]
        rfl
      · rw [retire, if_neg (by omega)]
        rfl
    | true =>
      have hempty : s.held user asset = x := by simp_all
      refine tells_switch false (plain fun _ _ => rfl) ?_
      rw [retire, if_pos (by omega)]
      rfl
  | liquidate => cases hop

/-- A liquidation publishes no switch, so it must not make one. -/
theorem Handles.tells_liquidation {c : LiquidationCall} (h : Handles s (.liquidate c) contents t) :
    Tells s contents t ↔ ¬ (t.held c.borrower c.collateralAsset = 0 ∨
      ∃ v ∈ c.receiver?, s.held v c.collateralAsset = 0 ∧ s.flagged v c.collateralAsset = false) := by
  cases h with
  | @liquidate _ _ _ x hflag hsome =>
    have hswitched : ∀ u a, (s.seize c.borrower c.collateralAsset c.receiver? x).flagged u a = _ :=
      s.flagged_seize x c.receiver?
    constructor
    · rintro htells (hempty | ⟨v, hv, hnone, hoff⟩)
      · have hon : (s.seize c.borrower c.collateralAsset c.receiver? x).flagged c.borrower
            c.collateralAsset = s.flagged c.borrower c.collateralAsset := htells _ _
        rw [hswitched, if_pos ⟨hempty, rfl, rfl⟩, hflag] at hon
        contradiction
      · have hon : (s.seize c.borrower c.collateralAsset c.receiver? x).flagged v c.collateralAsset =
            s.flagged v c.collateralAsset := htells _ _
        have hother : v ≠ c.borrower := fun hv => hsome (hv ▸ hnone)
        rw [hswitched, if_neg fun h => hother h.2.1, if_pos ⟨hv, hnone, rfl⟩, hoff] at hon
        contradiction
    · intro hkept u a
      obtain ⟨hleft, hfirst⟩ := not_or.1 hkept
      show (s.seize c.borrower c.collateralAsset c.receiver? x).flagged u a = s.flagged u a
      rw [hswitched, if_neg fun h => hleft h.1]
      split
      · rename_i h
        obtain ⟨hu, hnone, rfl⟩ := h
        by_contra hoff
        exact hfirst ⟨u, hu, hnone, by simpa using hoff⟩
      · rfl

/-! ## All pools -/

theorem lastSwitch?_commit {α : Type} (p : Pool) (l : Ledger) (receipt : Receipt α)
    (user asset : Key) : (p.commit l receipt).lastSwitch? user asset =
      (receipt.contents.filterMap (·.switch? user asset)).getLast?.or (p.lastSwitch? user asset) := by
  unfold lastSwitch? commit
  rw [List.filterMap_append, List.getLast?_append, List.filterMap_map]
  rfl

theorem told_iff : p.Told ↔
    ∀ user asset, p.ledger.supplies.flagged user asset = (p.lastSwitch? user asset).getD false := by
  refine forall₂_congr fun user asset => ?_
  cases p.lastSwitch? user asset <;> simp

theorem Told.commit_iff (hp : p.Told) {receipt : Receipt Outcome} {m : Ledger}
    (hg : m.supplies.Grows (p.commit m receipt).ledger.supplies) :
    (p.commit m receipt).Told ↔ Tells p.ledger.supplies receipt.contents m.supplies := by
  rw [told_iff] at hp ⊢
  simp only [Tells, hg.flagged, lastSwitch?_commit, hp _ _, Option.getD_or]

theorem after_told_iff (hsound : Sound p.ledger) (hp : p.Told) (op : Operation) :
    (p.after op).Told ↔ ¬ p.SwitchesUnseen op := by
  cases htx : p.transaction? op with
  | none =>
    have hwork : p.worked? op = none := by rw [worked?, htx]; rfl
    have htold : (p.after op).Told := by
      intro u a
      rw [(after_administered htx).supplies, hp, lastSwitch?, lastSwitch?, (record_administered htx).1]
    exact iff_of_true htold fun ⟨_, _, _, hm, _⟩ => by simp [hwork] at hm
  | some work =>
    unfold after
    rcases perform_handles hsound htx with ⟨receipt, m, hw, hdone, hm, hg⟩ | ⟨f, m, hw, hfailed⟩
    · have hwork : p.worked? op = some m := by simp [worked?, htx, hw]
      rw [hdone, hp.commit_iff hg, SwitchesUnseen, hwork]
      cases hcall : op.liquidation? with
      | none => exact iff_of_true (hm.tells hcall) fun ⟨_, hc, _⟩ => nomatch hc
      | some c =>
        have hop : op = .liquidate c := by
          cases op <;> simp_all [Operation.liquidation?]
        subst hop
        rw [hm.tells_liquidation]
        simp
    · have hwork : p.worked? op = none := by simp [worked?, htx, hw]
      rw [hfailed]
      exact iff_of_true hp fun ⟨_, _, _, hm, _⟩ => by simp [hwork] at hm

theorem told_new (params : PoolParams) (clock : Int) : Told { params, clock } :=
  fun _ _ => iff_of_false nofun nofun

/-- **Published switches.** Along a run from a new pool, a supply is always used as collateral if and
only if it has been switched and the last switch of it that is published is on, exactly when no
operation of the run switches a supply unseen. -/
theorem switches_published_iff (params : PoolParams) (clock : Int) (ops : List Operation) :
    (∀ before, before <+: ops → ∀ user asset,
      (run { params, clock } before).ledger.supplies.flagged user asset = true ↔
        (run { params, clock } before).lastSwitch? user asset = some true) ↔
    NeverSwitchesUnseen { params, clock } ops :=
  always_iff_never (I := Told) (C := fun p _ => Sound p.ledger) (fun _ => trivial)
    (fun _ _ _ => Iff.rfl)
    (fun p op _ hsound hp => ⟨after_told_iff hsound hp op, (after_onward p op).ledger.sound hsound⟩)
    Sound.empty (told_new params clock)

def lentToAna : List Operation :=
  [.initReserve .dai (.kinked .stableTwo),
    .initReserve .weth (.kinked .weth),
    .setPrice (.text "DAI") (.whole wad),
    .setPrice (.text "WETH") (.whole wad),
    .deposit (.text "WETH") 10000 (.text "carol"),
    .deposit (.text "DAI") 1000 (.text "ana"),
    .deposit (.text "DAI") 20 (.text "dan"),
    .borrow (.text "WETH") 700 2 (.text "ana"),
    .setPrice (.text "WETH") (.whole 1400000000000000000)]

def callOnAna (debtToCover : Int) (liquidator : Name) : Operation :=
  .liquidate {
    collateralAsset := .text "DAI", debtAsset := .text "WETH", borrower := .text "ana"
    debtToCover, liquidator := liquidator.toJson }

theorem halfSeized_published :
    let ops := lentToAna ++ [callOnAna 340 (.text "dan")]
    NeverSwitchesUnseen {} ops ∧
      (run {} ops).ledger.supplies.held (.text "dan") (.text "DAI") = 519 ∧
      ∀ before, before <+: ops → ∀ user asset,
        (run {} before).ledger.supplies.flagged user asset = true ↔
          (run {} before).lastSwitch? user asset = some true := by
  intro ops
  have hnever : NeverSwitchesUnseen {} ops := by decide +kernel
  exact ⟨hnever, by decide +kernel, (switches_published_iff {} 0 ops).2 hnever⟩

/-- All of it goes to another account. Neither switch is published. -/
theorem allSeized_unpublished :
    let p := run {} (lentToAna ++ [callOnAna 700 (.text "ben")])
    Reachable p ∧
      p.ledger.supplies.flagged (.text "ana") (.text "DAI") = false ∧
      p.lastSwitch? (.text "ana") (.text "DAI") = some true ∧
      p.ledger.supplies.flagged (.text "ben") (.text "DAI") = true ∧
      p.lastSwitch? (.text "ben") (.text "DAI") = none := by
  refine ⟨⟨⟨{}, 0, _, rfl⟩, ?_⟩, ?_, ?_, ?_, ?_⟩ <;> decide +kernel

end Pool

end MoneyMarket
