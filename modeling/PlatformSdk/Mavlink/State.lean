/-!
# System states

`mavlink::State` is the enumeration `MAV_STATE` of the MAVLink headers.  A
heartbeat carries it as one byte, and the program casts that byte without
checking it, so a code without an enumerator is a state of its own.
-/

namespace Airmap.Mavlink

/-- `MAV_STATE`, with the codes that have no enumerator in the program. -/
inductive State where
  | uninit
  | boot
  | calibrating
  | standby
  | active
  | critical
  | emergency
  | poweroff
  | other (code : UInt8) (h : 7 < code)
  deriving DecidableEq

namespace State

/-- `static_cast<State>` of the byte in a heartbeat. -/
def ofCode (code : UInt8) : State :=
  if h : 7 < code then .other code h
  else if code = 0 then .uninit
  else if code = 1 then .boot
  else if code = 2 then .calibrating
  else if code = 3 then .standby
  else if code = 4 then .active
  else if code = 5 then .critical
  else if code = 6 then .emergency
  else .poweroff

/-- The code of each state, as the program compares it with the next byte. -/
def code : State → UInt8
  | .uninit => 0
  | .boot => 1
  | .calibrating => 2
  | .standby => 3
  | .active => 4
  | .critical => 5
  | .emergency => 6
  | .poweroff => 7
  | .other code _ => code

theorem ofCode_code (state : State) : ofCode state.code = state := by
  cases state with
  | other code h => simp [State.code, ofCode, h]
  | _ => decide

theorem code_ofCode (c : UInt8) : (ofCode c).code = c := by
  by_cases h : 7 < c
  · simp [ofCode, h, State.code]
  · have hle : c.toNat ≤ 7 := Nat.le_of_not_lt h
    have hcases : c = 0 ∨ c = 1 ∨ c = 2 ∨ c = 3 ∨ c = 4 ∨ c = 5 ∨ c = 6 ∨
        c = 7 := by
      simp only [← UInt8.toNat_inj, UInt8.reduceToNat]
      omega
    rcases hcases with rfl | rfl | rfl | rfl | rfl | rfl | rfl | rfl
    all_goals rfl

theorem code_eq_iff {state : State} {c : UInt8} :
    state.code = c ↔ state = ofCode c := by
  constructor
  · intro h
    rw [← h, ofCode_code]
  · intro h
    rw [h, code_ofCode]

/-- The states of a vehicle on the ground. -/
def IsGround : State → Prop
  | .uninit | .boot | .calibrating | .standby => True
  | _ => False

/-- The states that a vehicle can land from. -/
def IsAirborne : State → Prop
  | .active | .critical | .emergency => True
  | _ => False

instance : DecidablePred IsGround
  | .uninit | .boot | .calibrating | .standby => inferInstanceAs (Decidable True)
  | .active | .critical | .emergency | .poweroff | .other _ _ =>
      inferInstanceAs (Decidable False)

instance : DecidablePred IsAirborne
  | .active | .critical | .emergency => inferInstanceAs (Decidable True)
  | .uninit | .boot | .calibrating | .standby | .poweroff | .other _ _ =>
      inferInstanceAs (Decidable False)

end State
end Airmap.Mavlink
