import Zicsr.Assembly.Source
import Zicsr.Proofs.Assembly.Line
import Zicsr.Proofs.Text.Bytes

/-
  Assembling with every guard in place.

  Here a line is read as a text in UTF-8 with positions that count bytes: a cut must
  fall between two characters, an operand that is used must be there, an operand that
  is packed must fit its field and a sum must fit the word. What breaks one of these
  rules is a fault. None ever does: searching finds only places where a text can be
  cut, the operands are counted before they are used, and encoding checks what it
  packs. So the guarded reading is the plain one, for every line (`readLine_eq`) and
  every source text (`assemble_eq`).

  Each function here is the guarded form of the plain one that has its name; what
  cannot fault is used as it is.
-/

namespace Zicsr

open TypedLine (byteSize dropBytes?)

/-- What a guard stops: a cut inside a character, an operand that is not there, one
that does not fit the word, or a sum that does not. -/
inductive Fault where
  | slice (position : Nat)
  | index (position : Nat)
  | pack (fault : Word.PackFault)
  | overflow
  deriving DecidableEq, Repr

namespace Guarded

/-! ## Cutting a line -/

/-- What stands before a position. -/
def sliceTo (position : Nat) (t : Text) : Except Fault Text :=
  match Text.takeBytes? position t with
  | some before => .ok before
  | none => .error (.slice position)

/-- What stands from a position on. -/
def sliceFrom (position : Nat) (t : Text) : Except Fault Text :=
  match dropBytes? position t with
  | some after => .ok after
  | none => .error (.slice position)

/-- The marks that begin a comment. -/
def commentMarks : List Text := ["#", "//"]

/-- The position of the first mark of a comment. -/
def commentStart? (line : Text) : Option Nat :=
  (commentMarks.filterMap (Text.position? · line)).min?

def dropComment (line : Text) : Except Fault Text :=
  match commentStart? line with
  | some position => sliceTo position line
  | none => .ok line

def cut? (code : Text) : Except Fault (Option (Style × Text × Text)) :=
  match Text.position? "(" code with
  | none => .ok (some (.statement, (Text.cutAt? Text.isBlank code).getD (code, [])))
  | some position => do
    let name ← sliceTo position code
    let rest ← sliceFrom (position + 1) code
    return (Text.dropEnd? ')' rest).map (fun operands => (.call, Text.trim name, operands))

/-! ## Operands and words -/

/-- The operand that a form puts into a slot, from those given by their numbers. -/
def operand (f : Form) (missing : Text) (given : List Text) (slot : Slot) : Except Fault Text :=
  match f.slots.idxOf? slot with
  | none => .ok missing
  | some position =>
    match given[position]? with
    | some t => .ok t
    | none => .error (.index position)

def fill (f : Form) (given : List Text) : Except Fault (Except LineError Instruction) :=
  match f.op with
  | .csr op => do
    let rd ← operand f "zero" given .rd
    let csr ← operand f "zero" given .csr
    let source ← operand f "zero" given .source
    return Instruction.readOperands op rd csr source
  | .system op => .ok (.ok (.bare (.system op)))

/-- The word of operands that fit. -/
def pack (funct3 rd source csr : BitVec 32) : Except Fault (BitVec 32) :=
  match Word.packChecked funct3 rd source csr with
  | .error fault => .error (.pack fault)
  | .ok word =>
    if UInt32.size ≤ Word.systemOpcode.toNat + (funct3 <<< 12).toNat then .error .overflow
    else .ok word

def encodeCsr (op : CsrOp) (o : Operands) : Except Fault (Except EncodeError (BitVec 32)) :=
  if 32 ≤ o.rd then .ok (.error (.registerOutOfRange o.rd))
  else if 32 ≤ o.source then
    if op.immediate then .ok (.error (.immediateOutOfRange o.source))
    else .ok (.error (.registerOutOfRange o.source))
  else if 4096 ≤ o.csr then .ok (.error (.csrOutOfRange o.csr))
  else if isReadOnly o.csr && op.writes o.source then .ok (.error (.readOnlyWrite o.csr))
  else (pack (.ofNat 32 op.funct3) (.ofNat 32 o.rd) (.ofNat 32 o.source) (.ofNat 32 o.csr)).map .ok

def encode (i : Instruction) : Except Fault (Except EncodeError (BitVec 32)) :=
  match i.op, i.operands with
  | .csr op, some o => encodeCsr op o
  | .system op, none => .ok (.ok op.word)
  | op, _ => .ok (.error (.operandMismatch op))

/-! ## Lines and source texts -/

def instruction (p : Parts) : Except Fault (Except LineError Instruction) :=
  match Form.find? (Form.ofStyle p.style) p.name with
  | none => .ok (.error (p.style.unknown p.name))
  | some form =>
    if p.operands.length ≠ form.arity then
      .ok (.error (.operandCount p.name form.arity p.operands.length))
    else fill form p.operands

def checked (i : Instruction) : Except Fault (Except LineError Instruction) := do
  match ← encode i with
  | .ok _ => return .ok i
  | .error cause => return .error (.encode cause)

def readLine (line : Text) : Except Fault (Except LineError (Option Instruction)) := do
  let code := Text.trim (← dropComment line)
  if code = [] then return .ok none
  match ← cut? code with
  | none => return .error (.openCall code)
  | some (style, name, operands) =>
    match ← instruction ⟨style, name, Parts.splitOperands operands⟩ with
    | .error e => return .error e
    | .ok i => return (← checked i).map some

def assembleLine (line : Text) : Except Fault (Except LineError (Option (BitVec 32))) := do
  match ← readLine line with
  | .error e => return .error e
  | .ok none => return .ok none
  | .ok (some i) =>
    match ← encode i with
    | .ok word => return .ok (some word)
    | .error cause => return .error (.encode cause)

def assembleFrom : Nat → List Text → Except Fault (Except SourceError (List (BitVec 32)))
  | _, [] => .ok (.ok [])
  | n, line :: rest => do
    match ← assembleLine line with
    | .error cause => return .error ⟨n, cause⟩
    | .ok word? => return (← assembleFrom (n + 1) rest).map (word?.toList ++ ·)

def assemble (source : Text) : Except Fault (Except SourceError (List (BitVec 32))) :=
  assembleFrom 1 (Text.lines source)

/-- Where a rule is broken, the guards tell. -/
example : sliceTo 1 "é(" = .error (.slice 1) ∧
    operand (.full ⟨.write, false⟩) "zero" ["t0", "cycle"] .source = .error (.index 2) ∧
    pack 1 32 0 0 = .error (.pack .rd) :=
  ⟨rfl, rfl, rfl⟩

/-! ## Cuts fall between characters -/

theorem commentStart?_cons {c : Char} {t : Text} (hhash : c ≠ '#')
    (hslash : ∀ s, c = '/' → t = '/' :: s → False) :
    commentStart? (c :: t) = (commentStart? t).map (· + c.utf8Size) := by
  have hone : ['#'].isPrefixOf (c :: t) = false := by
    simp [List.isPrefixOf, hhash.symm]
  have htwo : ['/', '/'].isPrefixOf (c :: t) = false := by
    cases t with
    | nil => simp [List.isPrefixOf]
    | cons d t =>
      by_cases hc : c = '/'
      · have hd : d ≠ '/' := fun hd => hslash t hc (by rw [hd])
        simp [List.isPrefixOf, hd.symm]
      · simp [List.isPrefixOf, Ne.symm hc]
  simp only [commentStart?, commentMarks, List.filterMap_cons, List.filterMap_nil]
  rw [show "#".toList = ['#'] from rfl, show "//".toList = ['/', '/'] from rfl,
    Text.position?_cons_of_not hone, Text.position?_cons_of_not htwo]
  cases Text.position? ['#'] t <;> cases Text.position? ['/', '/'] t <;> simp [List.min?]

theorem commentStart?_of_mark (mark : Text) {t : Text} (hmark : mark ∈ commentMarks)
    (h : mark.isPrefixOf t = true) (hne : t ≠ []) : commentStart? t = some 0 := by
  have hzero : 0 ∈ commentMarks.filterMap (Text.position? · t) := by
    refine List.mem_filterMap.mpr ⟨mark, hmark, ?_⟩
    cases t with
    | nil => exact absurd rfl hne
    | cons c t => rw [Text.position?, if_pos h]
  exact List.min?_eq_some_iff.mpr ⟨hzero, fun _ _ => Nat.zero_le _⟩

/-- The text before the first mark ends where the mark is found. -/
theorem commentStart?_spec (line : Text) :
    match commentStart? line with
    | some position => Text.takeBytes? position line = some (Parts.dropComment line)
    | none => Parts.dropComment line = line := by
  fun_induction Parts.dropComment line with
  | case1 => rfl
  | case2 rest =>
    rw [commentStart?_of_mark "#" (by decide) (by simp [List.isPrefixOf]) (by simp)]
    rfl
  | case3 rest =>
    rw [commentStart?_of_mark "//" (by decide) (by simp [List.isPrefixOf]) (by simp)]
    rfl
  | case4 c rest hhash hslash ih =>
    rw [commentStart?_cons hhash hslash]
    cases h : commentStart? rest with
    | none =>
      rw [h] at ih
      exact congrArg (c :: ·) ih
    | some position =>
      rw [h] at ih
      show Text.takeBytes? (position + c.utf8Size) (c :: rest) = _
      rw [Text.takeBytes?_add, ih]
      rfl

theorem dropComment_eq (line : Text) : dropComment line = .ok (Parts.dropComment line) := by
  have h := commentStart?_spec line
  unfold dropComment
  cases hstart : commentStart? line with
  | none =>
    rw [hstart] at h
    exact congrArg Except.ok h.symm
  | some position =>
    rw [hstart] at h
    simp only [sliceTo, h]

theorem cut?_eq (code : Text) : cut? code = .ok (Parts.cut? code) := by
  have hposition := Text.position?_singleton '(' code
  unfold cut? Parts.cut?
  rw [show "(".toList = ['('] from rfl, hposition]
  cases hcut : Text.cutAt? (· == '(') code with
  | none => rfl
  | some parts =>
    obtain ⟨name, rest⟩ := parts
    obtain ⟨-, c, hc, rfl⟩ := Text.cutAt?_eq_some_iff.mp hcut
    obtain rfl : c = '(' := beq_iff_eq.mp hc
    have hto : sliceTo (byteSize name) (name ++ '(' :: rest) = .ok name := by
      rw [sliceTo, Text.takeBytes?_append]
    have hfrom : sliceFrom (byteSize name + 1) (name ++ '(' :: rest) = .ok rest := by
      have hdrop := TypedLine.dropBytes?_append (name ++ ['(']) rest
      rw [TypedLine.byteSize_append, List.append_assoc] at hdrop
      rw [sliceFrom]
      exact hdrop ▸ rfl
    simp only [Option.map_some, hto, hfrom]
    rfl

/-! ## Operands are there and fit -/

theorem lookup_zip (slots : List Slot) (given : List Text) (slot : Slot) :
    (slots.zip given).lookup slot = (slots.idxOf? slot).bind (given[·]?) := by
  induction slots generalizing given with
  | nil => rfl
  | cons first slots ih =>
    cases given with
    | nil => cases (first :: slots).idxOf? slot <;> rfl
    | cons t given =>
      rw [List.zip_cons_cons, List.lookup_cons, List.idxOf?_cons, ih]
      by_cases hslot : slot = first
      · simp [hslot]
      · cases slots.idxOf? slot <;>
          simp [beq_false_of_ne hslot, beq_false_of_ne (Ne.symm hslot)]

theorem operand_eq {f : Form} {given : List Text} (h : given.length = f.arity) (missing : Text)
    (slot : Slot) : operand f missing given slot = .ok (f.operand missing given slot) := by
  unfold operand Form.operand
  rw [lookup_zip]
  cases hslot : f.slots.idxOf? slot with
  | none => rfl
  | some position =>
    have hlt : position < given.length := by
      rw [h, ← f.length_slots]
      exact (List.idxOf?_eq_some_iff.mp hslot).1
    simp only [Option.bind_some, List.getElem?_eq_getElem hlt, Option.getD_some]

theorem fill_eq {f : Form} {given : List Text} (h : given.length = f.arity) :
    fill f given = .ok (f.fill given) := by
  unfold fill Form.fill
  cases f.op with
  | system op => rfl
  | csr op =>
    simp only [operand_eq h]
    rfl

/-- Packing faults for the first operand that does not fit, and never for a sum. -/
theorem pack_eq_ite (funct3 rd source csr : BitVec 32) :
    pack funct3 rd source csr =
      if 32 ≤ rd.toNat then .error (.pack .rd)
      else if 32 ≤ source.toNat then .error (.pack .source)
      else if 4096 ≤ csr.toNat then .error (.pack .csr)
      else .ok (Word.pack funct3 rd source csr) := by
  -- The lowest twelve bits of the shifted code are clear, so the opcode fits in.
  have hsum : Word.systemOpcode.toNat + (funct3 <<< 12).toNat < UInt32.size := by
    rw [BitVec.toNat_shiftLeft, Nat.shiftLeft_eq]
    show 0x73 + funct3.toNat * 4096 % 4294967296 < 4294967296
    omega
  unfold pack Word.packChecked
  by_cases hrd : 32 ≤ rd.toNat
  · simp only [if_pos hrd]
  · by_cases hsource : 32 ≤ source.toNat
    · simp only [if_neg hrd, if_pos hsource]
    · by_cases hcsr : 4096 ≤ csr.toNat
      · simp only [if_neg hrd, if_neg hsource, if_pos hcsr]
      · simp only [if_neg hrd, if_neg hsource, if_neg hcsr, if_neg (Nat.not_le_of_lt hsum)]

theorem pack_eq (funct3 : BitVec 32) {rd source csr : Nat} (hrd : rd < 32) (hsource : source < 32)
    (hcsr : csr < 4096) :
    pack funct3 (.ofNat 32 rd) (.ofNat 32 source) (.ofNat 32 csr) =
      .ok (Word.pack funct3 (.ofNat 32 rd) (.ofNat 32 source) (.ofNat 32 csr)) := by
  rw [pack_eq_ite]
  simp only [BitVec.toNat_ofNat]
  rw [if_neg (by omega), if_neg (by omega), if_neg (by omega)]

theorem encodeCsr_eq (op : CsrOp) (o : Operands) : encodeCsr op o = .ok (op.encode o) := by
  unfold encodeCsr CsrOp.encode
  split
  · rfl
  · next hrd =>
    split
    · split <;> rfl
    · next hsource =>
      split
      · rfl
      · next hcsr =>
        split
        · rfl
        · rw [pack_eq _ (Nat.lt_of_not_le hrd) (Nat.lt_of_not_le hsource) (Nat.lt_of_not_le hcsr)]
          rfl

theorem encode_eq (i : Instruction) : encode i = .ok i.encode := by
  obtain ⟨op | op, o?⟩ := i
  · cases o? with
    | none => rfl
    | some o => exact encodeCsr_eq op o
  · cases o? <;> rfl

/-! ## The plain reading -/

theorem instruction_eq (p : Parts) : instruction p = .ok p.instruction := by
  unfold instruction Parts.instruction
  cases Form.find? (Form.ofStyle p.style) p.name with
  | none => rfl
  | some form =>
    by_cases h : p.operands.length = form.arity
    · simp only [h, ne_eq, not_true_eq_false, if_false, fill_eq h]
    · simp only [h, ne_eq, not_false_eq_true, if_true]

theorem checked_eq (i : Instruction) : checked i = .ok i.checked := by
  unfold checked Instruction.checked
  rw [encode_eq]
  cases i.encode <;> rfl

theorem readLine_eq (line : Text) : readLine line = .ok (Zicsr.readLine line) := by
  unfold readLine Zicsr.readLine
  rw [dropComment_eq]
  show (if Parts.code line = [] then _ else _) = _
  by_cases hcode : Parts.code line = []
  · rw [if_pos hcode, if_pos hcode]
    rfl
  · rw [if_neg hcode, if_neg hcode]
    show (cut? (Parts.code line) >>= _) = _
    rw [cut?_eq]
    unfold Parts.read?
    cases Parts.cut? (Parts.code line) with
    | none => rfl
    | some cut =>
      obtain ⟨style, name, operands⟩ := cut
      show (instruction ⟨style, name, Parts.splitOperands operands⟩ >>= _) = _
      rw [instruction_eq]
      show _ = Except.ok
        (Except.bind (Parts.instruction ⟨style, name, Parts.splitOperands operands⟩) _)
      cases Parts.instruction ⟨style, name, Parts.splitOperands operands⟩ with
      | error e => rfl
      | ok i =>
        show (checked i >>= _) = _
        rw [checked_eq]
        show _ = Except.ok (Except.bind i.checked _)
        cases i.checked <;> rfl

theorem assembleLine_eq (line : Text) : assembleLine line = .ok (Zicsr.assembleLine line) := by
  unfold assembleLine Zicsr.assembleLine
  rw [readLine_eq]
  cases Zicsr.readLine line with
  | error e => rfl
  | ok i? =>
    cases i? with
    | none => rfl
    | some i =>
      show (encode i >>= _) = _
      rw [encode_eq]
      show _ = Except.ok (match i.encode with | .ok _ => _ | .error _ => _)
      cases i.encode <;> rfl

theorem assembleFrom_eq (n : Nat) (lines : List Text) :
    assembleFrom n lines = .ok (Zicsr.assembleFrom n lines) := by
  induction lines generalizing n with
  | nil => rfl
  | cons line lines ih =>
    rw [assembleFrom, Zicsr.assembleFrom, assembleLine_eq, ih]
    cases Zicsr.assembleLine line <;> rfl

theorem assemble_eq (source : Text) : assemble source = .ok (Zicsr.assemble source) :=
  assembleFrom_eq 1 (Text.lines source)

end Guarded

end Zicsr
