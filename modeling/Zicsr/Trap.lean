import Zicsr.Xlen
import Zicsr.Numeral

/-
  Trap causes.

  The top bit of a cause word tells an interrupt from an exception and the rest
  is a code. Codes of the base standard have names; every other code stands for
  itself.
-/

namespace Zicsr

inductive Interrupt where
  | supervisorSoft
  | machineSoft
  | supervisorTimer
  | machineTimer
  | supervisorExternal
  | machineExternal
  deriving DecidableEq, Repr

namespace Interrupt

def all : List Interrupt :=
  [.supervisorSoft, .machineSoft, .supervisorTimer, .machineTimer, .supervisorExternal,
   .machineExternal]

def code : Interrupt → Nat
  | .supervisorSoft => 1
  | .machineSoft => 3
  | .supervisorTimer => 5
  | .machineTimer => 7
  | .supervisorExternal => 9
  | .machineExternal => 11

def name : Interrupt → Text
  | .supervisorSoft => "SupervisorSoft"
  | .machineSoft => "MachineSoft"
  | .supervisorTimer => "SupervisorTimer"
  | .machineTimer => "MachineTimer"
  | .supervisorExternal => "SupervisorExternal"
  | .machineExternal => "MachineExternal"

def ofCode? (n : Nat) : Option Interrupt := all.find? (fun i => i.code == n)

end Interrupt

inductive Exception where
  | instructionMisaligned
  | instructionFault
  | illegalInstruction
  | breakpoint
  | loadMisaligned
  | loadFault
  | storeMisaligned
  | storeFault
  | userEnvCall
  | supervisorEnvCall
  | machineEnvCall
  | instructionPageFault
  | loadPageFault
  | storePageFault
  deriving DecidableEq, Repr

namespace Exception

def all : List Exception :=
  [.instructionMisaligned, .instructionFault, .illegalInstruction, .breakpoint,
   .loadMisaligned, .loadFault, .storeMisaligned, .storeFault, .userEnvCall,
   .supervisorEnvCall, .machineEnvCall, .instructionPageFault, .loadPageFault,
   .storePageFault]

def code : Exception → Nat
  | .instructionMisaligned => 0
  | .instructionFault => 1
  | .illegalInstruction => 2
  | .breakpoint => 3
  | .loadMisaligned => 4
  | .loadFault => 5
  | .storeMisaligned => 6
  | .storeFault => 7
  | .userEnvCall => 8
  | .supervisorEnvCall => 9
  | .machineEnvCall => 11
  | .instructionPageFault => 12
  | .loadPageFault => 13
  | .storePageFault => 15

def name : Exception → Text
  | .instructionMisaligned => "InstructionMisaligned"
  | .instructionFault => "InstructionFault"
  | .illegalInstruction => "IllegalInstruction"
  | .breakpoint => "Breakpoint"
  | .loadMisaligned => "LoadMisaligned"
  | .loadFault => "LoadFault"
  | .storeMisaligned => "StoreMisaligned"
  | .storeFault => "StoreFault"
  | .userEnvCall => "UserEnvCall"
  | .supervisorEnvCall => "SupervisorEnvCall"
  | .machineEnvCall => "MachineEnvCall"
  | .instructionPageFault => "InstructionPageFault"
  | .loadPageFault => "LoadPageFault"
  | .storePageFault => "StorePageFault"

def ofCode? (n : Nat) : Option Exception := all.find? (fun e => e.code == n)

end Exception

/-- A trap cause of a hart of width `x`; one without a name keeps its top bit and
its code. -/
inductive Trap (x : Xlen) where
  | interrupt (i : Interrupt)
  | exception (e : Exception)
  | unknown (top : Bool) (code : x.Word)
  deriving DecidableEq, Repr

namespace Trap

variable {x : Xlen}

/-- The word with only the top bit set. -/
def interruptBit (x : Xlen) : x.Word := BitVec.twoPow x.bits (x.bits - 1)

/-- The trap with a name, if the code has one. -/
def named? (top : Bool) (code : Nat) : Option (Trap x) :=
  if top then (Interrupt.ofCode? code).map .interrupt
  else (Exception.ofCode? code).map .exception

/-- The trap of a cause word. -/
def ofCause (cause : x.Word) : Trap x :=
  let code := cause &&& ~~~interruptBit x
  (named? cause.msb code.toNat).getD (.unknown cause.msb code)

/-- Whether the trap is an interrupt. -/
def isInterrupt : Trap x → Bool
  | interrupt _ => true
  | exception _ => false
  | unknown top _ => top

def code : Trap x → x.Word
  | interrupt i => .ofNat x.bits i.code
  | exception e => .ofNat x.bits e.code
  | unknown _ code => code

def cause (t : Trap x) : x.Word :=
  if t.isInterrupt then t.code ||| interruptBit x else t.code

def display : Trap x → Text
  | interrupt i => "Interrupt(".toList ++ i.name ++ ")".toList
  | exception e => "Exception(".toList ++ e.name ++ ")".toList
  | unknown top code =>
    "Unknown \x7b interrupt: ".toList ++ (if top then "true" else "false").toList
      ++ ", code: ".toList ++ Numeral.decimal code.toNat ++ " \x7d".toList

end Trap

end Zicsr
