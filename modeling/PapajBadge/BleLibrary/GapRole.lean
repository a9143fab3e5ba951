import Mathlib.Logic.Function.Basic
import PapajBadge.BleLibrary.GattServApp

/-!
# The GAP peripheral role library

The role library of the vendored BLE stack notifies the program of state changes
and stores the advertising parameters the program sets.  Its calls are collected
in the structure `GapRole`; the assumptions the code makes of them are the
predicates `GapRole.Lawful` and `GapRole.KnowsAddress`.
-/

namespace PapajBadge

/-- `gapRole_States_t`.  The states the program names are constructors; every
other code the library may report (an error, connected and advertising, ...) is
`other`. -/
inductive GapRoleState where
  | init
  | started
  | advertising
  | waiting
  | connected
  | other (code : UInt32)
deriving DecidableEq, Repr

/-- The part of `gapRoleEvent_t` the state callback reads: the opcode, and the
handle of the link-established member of the union. -/
structure GapRoleEvent where
  opcode : UInt8
  connectionHandle : ConnHandle
deriving DecidableEq, Repr

/-- `GAP_LINK_ESTABLISHED_EVENT`. -/
def gapLinkEstablishedEvent : UInt8 := 0x05

/-- The parameters set with `GAP_SetParamValue`: `TGAP_DISC_ADV_INT_MIN`,
`TGAP_DISC_ADV_INT_MAX` and `TGAP_GEN_DISC_ADV_MIN`. -/
inductive GapParam where
  | discAdvIntMin
  | discAdvIntMax
  | genDiscAdvMin
deriving DecidableEq, Repr

/-- A Bluetooth device address. -/
abbrev BdAddr := Vector UInt8 6

/-- The calls the program makes into the role library.  `Store` is whatever the
library keeps; `getBdAddr` is `GAPRole_GetParameter(GAPROLE_BD_ADDR)`, which may
fail. -/
structure GapRole where
  Store : Type
  setParamValue : GapParam → UInt16 → Store → Store
  getParamValue : GapParam → Store → UInt16
  getBdAddr : Store → Option BdAddr

/-- `GAP_SetParamValue` succeeds and `GAP_GetParamValue` returns the last value
set. -/
structure GapRole.Lawful (G : GapRole) : Prop where
  get_set_self : ∀ (p : GapParam) (v : UInt16) (st : G.Store),
    G.getParamValue p (G.setParamValue p v st) = v
  get_set_other : ∀ {p q : GapParam} (v : UInt16) (st : G.Store), q ≠ p →
    G.getParamValue q (G.setParamValue p v st) = G.getParamValue q st

/-- `GAPRole_GetParameter` succeeds. -/
def GapRole.KnowsAddress (G : GapRole) : Prop :=
  ∀ st : G.Store, (G.getBdAddr st).isSome

/-! ## A library that stores what it is told -/

/-- Values of the three advertising parameters. -/
abbrev GapParams := GapParam → UInt16

/-- Set one parameter. -/
def GapParams.set (p : GapParam) (v : UInt16) (st : GapParams) : GapParams :=
  Function.update st p v

/-- Read one parameter. -/
def GapParams.get (p : GapParam) (st : GapParams) : UInt16 :=
  st p

theorem GapParams.get_set_self (p : GapParam) (v : UInt16) (st : GapParams) :
    GapParams.get p (GapParams.set p v st) = v := by
  simp [GapParams.get, GapParams.set]

theorem GapParams.get_set_other {p q : GapParam} (v : UInt16) (st : GapParams) (hne : q ≠ p) :
    GapParams.get q (GapParams.set p v st) = GapParams.get q st := by
  simp [GapParams.get, GapParams.set, hne]

/-- A role library that keeps the three parameters and always reports the same
address. -/
def paramStore (addr : BdAddr) : GapRole where
  Store := GapParams
  setParamValue := GapParams.set
  getParamValue := GapParams.get
  getBdAddr _ := some addr

theorem paramStore_lawful (addr : BdAddr) : (paramStore addr).Lawful where
  get_set_self := GapParams.get_set_self
  get_set_other := GapParams.get_set_other

theorem paramStore_knowsAddress (addr : BdAddr) : (paramStore addr).KnowsAddress :=
  fun _ => rfl

end PapajBadge
