import MoneyMarket.Proofs.Pool.Supplies

/-!
# Collateral that is there

Supplies are used as collateral only where there are any, as long as whoever is given a first supply
has some of it then. Rounding can leave nothing of it: it is switched on all the same.
-/

namespace MoneyMarket

namespace Supplies

variable {s t : Supplies} {user asset borrower v : Key} {x : Int}

/-- No supply is used as collateral where there is none. -/
def Solid (s : Supplies) : Prop :=
  ∀ user asset, s.held user asset = 0 → s.flagged user asset = false

def NonNegative (s : Supplies) : Prop := ∀ user asset, 0 ≤ s.held user asset

theorem Grows.solid (h : s.Grows t) (hn : s.NonNegative) (hs : s.Solid) : t.Solid := by
  intro u a hnone
  have hle := h.held u a
  have hnonneg := hn u a
  rw [h.flagged]
  exact hs u a (by omega)

theorem NonNegative.add (hn : s.NonNegative) (hle : 0 ≤ s.held user asset + x) :
    (s.add user asset x).NonNegative := by
  intro u a
  rw [held_add]
  split
  · rename_i h
    rw [h.1, h.2]
    exact hle
  · exact hn u a

theorem NonNegative.retire (hn : s.NonNegative) : (s.retire user asset).NonNegative := by
  intro u a
  rw [held_retire]
  exact hn u a

theorem Solid.switch (hs : s.Solid) (hsome : s.held user asset ≠ 0) (enabled : Bool) :
    (s.switch user asset enabled).Solid := by
  intro u a hnone
  rw [held_switch] at hnone
  have hother : ¬ (u = user ∧ a = asset) := by
    rintro ⟨rfl, rfl⟩
    exact hsome hnone
  rw [flagged_switch, if_neg hother]
  exact hs u a hnone

theorem Solid.take (hs : s.Solid) (x : Int) : ((s.add user asset x).retire user asset).Solid := by
  intro u a hnone
  rw [held_retire, held_add] at hnone
  rw [flagged_retire]
  by_cases h : u = user ∧ a = asset
  · obtain ⟨rfl, rfl⟩ := h
    rw [if_pos ⟨rfl, rfl⟩] at hnone
    rw [if_pos ⟨by simpa using hnone, rfl, rfl⟩]
  · rw [if_neg h] at hnone
    rw [if_neg fun h' => h h'.2]
    exact hs u a hnone

/-- What comes in is switched on if it is the first, whatever it comes to. -/
theorem Solid.receive_iff (hs : s.Solid) (hn : s.NonNegative) (hx : 0 ≤ x)
    (hg : (s.receive user asset (s.held user asset = 0) x).Grows t) :
    t.Solid ↔ ¬ (s.held user asset = 0 ∧ t.held user asset = 0) := by
  have hmore := hg.held
  have hflag (u a : Key) : t.flagged u a =
      if s.held user asset = 0 ∧ u = user ∧ a = asset then true else s.flagged u a := by
    simp [hg.flagged]
  constructor
  · rintro ht ⟨hbefore, hafter⟩
    have hoff := ht user asset hafter
    rw [hflag, if_pos ⟨hbefore, rfl, rfl⟩] at hoff
    contradiction
  · intro hkept u a hnone
    have hle := hmore u a
    have hnonneg := hn u a
    rw [held_receive, held_add] at hle
    by_cases h : u = user ∧ a = asset
    · obtain ⟨rfl, rfl⟩ := h
      rw [if_pos ⟨rfl, rfl⟩] at hle
      exact absurd ⟨by omega, hnone⟩ hkept
    · rw [if_neg h] at hle
      rw [hflag, if_neg fun h' => h h'.2]
      exact hs u a (by omega)

end Supplies

namespace Pool

open MoneyMarket.FixedPoint MoneyMarket.Ledger MoneyMarket.Supplies

variable {p : Pool} {op : Operation} {s t t' : Supplies} {contents : List PoolEvent.Content}

def Operation.receiver? : Operation → Option (Key × Key)
  | .deposit asset _ user => some (user.key, asset.key)
  | .liquidate c => c.receiver?.map fun v => (v, c.collateralAsset.key)
  | _ => none

/-- The operation is done, and whom it gives a first supply has none afterwards. -/
def GivesNothing (p : Pool) (op : Operation) : Prop :=
  (p.perform op).2.toOption.isSome ∧ ∃ x ∈ op.receiver?, p.ledger.supplies.held x.1 x.2 = 0 ∧
    (p.after op).ledger.supplies.held x.1 x.2 = 0

def NeverGivesNothing (p : Pool) : List Operation → Prop
  | [] => True
  | op :: rest => ¬ p.GivesNothing op ∧ NeverGivesNothing (p.after op) rest

instance (p : Pool) (op : Operation) : Decidable (p.GivesNothing op) :=
  inferInstanceAs (Decidable (_ ∧ ∃ x ∈ op.receiver?, _))

instance decidableNeverGivesNothing (p : Pool) :
    (ops : List Operation) → Decidable (p.NeverGivesNothing ops)
  | [] => .isTrue trivial
  | _ :: rest => @instDecidableAnd _ _ _ (decidableNeverGivesNothing (p.after _) rest)

theorem Handles.solid_iff (h : Handles s op contents t) (hs : s.Solid) (hn : s.NonNegative)
    (hg : t.Grows t') :
    t'.Solid ↔ ¬ ∃ x ∈ op.receiver?, s.held x.1 x.2 = 0 ∧ t'.held x.1 x.2 = 0 := by
  have alone {op : Operation} (hreceiver : op.receiver? = none) (htn : t.NonNegative) (ht : t.Solid) :
      t'.Solid ↔ ¬ ∃ x ∈ op.receiver?, s.held x.1 x.2 = 0 ∧ t'.held x.1 x.2 = 0 := by
    rw [hreceiver]
    exact iff_of_true (hg.solid htn ht) nofun
  cases h with
  | borrow | repay | switchMargin | liquidateMargin => exact alone rfl hn hs
  | switch hsome => exact alone rfl hn (hs.switch hsome _)
  | withdraw _ hx hle => exact alone rfl (hn.add (by omega)).retire (hs.take _)
  | deposit hfirst hx =>
    subst hfirst
    rw [hs.receive_iff hn hx hg]
    simp [Operation.receiver?]
  | @liquidate c _ _ x hflag hsome hx hle =>
    have htake : (s.add c.borrower c.collateralAsset (-x)).NonNegative := hn.add (by omega)
    have hreceives : (Operation.liquidate c).receiver? =
      c.receiver?.map fun v => (v, c.collateralAsset.key) := rfl
    rw [hreceives]
    cases hreceiver : c.receiver? with
    | none =>
      rw [hreceiver] at hg
      exact iff_of_true (hg.solid htake.retire (hs.take _)) nofun
    | some v =>
      rw [hreceiver] at hg
      -- a borrower who is also the liquidator is given nothing new
      by_cases hv : v = c.borrower
      · subst hv
        rw [s.seize_own x hsome] at hg
        exact iff_of_true (hg.solid hn hs) fun ⟨_, hy, hnone⟩ => by cases hy; exact hsome hnone.1
      · have hheld : ((s.add c.borrower c.collateralAsset (-x)).retire c.borrower
            c.collateralAsset).held v c.collateralAsset = s.held v c.collateralAsset := by
          simp [hv]
        rw [s.seize_other x hv, ← hheld] at hg
        rw [(hs.take _).receive_iff htake.retire hx hg, hheld]
        simp

/-- An operation leaves supplies solid unless it gives nothing. -/
theorem after_solid_iff (hp : Timely p.clock p.ledger) (hs : p.ledger.supplies.Solid)
    (op : Operation) : (p.after op).ledger.supplies.Solid ↔ ¬ p.GivesNothing op := by
  have hn : p.ledger.supplies.NonNegative := fun u a => hp.balanced.supply.nonneg a u
  cases htx : p.transaction? op with
  | none =>
    have hreceiver : op.receiver? = none := by
      cases op <;> first | rfl | simp [transaction?] at htx
    rw [(after_administered htx).supplies, GivesNothing, hreceiver]
    apply iff_of_true hs
    rintro ⟨_, _, hnone, _⟩
    cases hnone
  | some work =>
    unfold GivesNothing after
    rcases perform_handles hp.balanced.sound htx with ⟨receipt, m, _, hdone, hm, hg⟩ | ⟨f, _, _, hfailed⟩
    · rw [hdone, hm.solid_iff hs hn hg]
      simp [Except.toOption]
    · rw [hfailed]
      exact iff_of_true hs fun h => Bool.false_ne_true h.1

theorem solid_empty : ({} : Ledger).supplies.Solid := fun _ _ _ => rfl

/-- **Empty collateral.** Along a run from a new pool, no supply is ever used as collateral where there
is none exactly when no operation gives an account a first supply of which it then has nothing. -/
theorem emptyUnused_iff (params : PoolParams) (clock : Int) (ops : List Operation) :
    (∀ before, before <+: ops → ∀ user asset,
      (run { params, clock } before).ledger.supplies.held user asset = 0 →
      (run { params, clock } before).ledger.supplies.flagged user asset = false) ↔
    NeverGivesNothing { params, clock } ops := by
  refine always_iff_never (I := fun p : Pool => p.ledger.supplies.Solid)
    (C := fun p _ => Timely p.clock p.ledger) (fun _ => trivial) (fun _ _ _ => Iff.rfl)
    (fun p op _ hp hs => ⟨after_solid_iff hp hs op, after_timely hp op⟩) ?_ solid_empty
  exact Attainable.timely ⟨params, clock, [], rfl⟩

/-- A loan of three quarters of a DAI against a USDC, which falls. Then some of the debt, in units of
which a USDC has a million millions less, is covered by dan. -/
def coveredByDan (debtToCover : Int) : List Operation :=
  [.initReserve .usdc (.kinked .stableTwo),
    .initReserve .dai (.kinked .stableTwo),
    .setPrice (.text "USDC") (.whole wad),
    .setPrice (.text "DAI") (.whole wad),
    .deposit (.text "DAI") wad (.text "carol"),
    .deposit (.text "USDC") 1000000 (.text "ana"),
    .borrow (.text "DAI") 750000000000000000 2 (.text "ana"),
    .setPrice (.text "USDC") (.whole 800000000000000000),
    .liquidate {
      collateralAsset := .text "USDC", debtAsset := .text "DAI", borrower := .text "ana"
      debtToCover, liquidator := .text "dan" }]

theorem tenthCovered_solid :
    let ops := coveredByDan 100000000000000000
    NeverGivesNothing {} ops ∧
      (run {} ops).ledger.supplies.held (.text "dan") (.text "USDC") = 131250 ∧
      ∀ before, before <+: ops → ∀ user asset,
        (run {} before).ledger.supplies.held user asset = 0 →
        (run {} before).ledger.supplies.flagged user asset = false := by
  intro ops
  have hnever : NeverGivesNothing {} ops := by decide +kernel
  exact ⟨hnever, by decide +kernel, (emptyUnused_iff {} 0 ops).2 hnever⟩

/-- For the smallest unit of DAI there is nothing, which dan then uses as collateral. -/
theorem unitCovered_empty :
    let p := run {} (coveredByDan 1)
    Reachable p ∧ p.ledger.supplies.held (.text "dan") (.text "USDC") = 0 ∧
      p.ledger.supplies.flagged (.text "dan") (.text "USDC") = true := by
  refine ⟨⟨⟨{}, 0, _, rfl⟩, ?_⟩, ?_, ?_⟩ <;> decide +kernel

end Pool

end MoneyMarket
