import Zicsr.Proofs.Assembly.Division
import Zicsr.Proofs.Text.Letters

/-
  The case of names.

  A name is kept as it is spelled until its form is looked up, so its case shows in
  the errors that echo it and nowhere else (`readLine_respelled`). No mark of the
  line syntax is a letter: a line is divided at the same places whatever the case of
  its letters (`dropComment_lower`), into a name that is spelled anew and the rest,
  which stays (`IsStatement.respelled`).
-/

namespace Zicsr

/-! ## Errors up to what they echo -/

/-- The error with the text that it echoes of a name, or of the code around one, in
small letters. -/
def LineError.lowerEcho : LineError → LineError
  | .unknownMnemonic name => .unknownMnemonic (Text.lower name)
  | .unknownCall name => .unknownCall (Text.lower name)
  | .operandCount name expected found => .operandCount (Text.lower name) expected found
  | .openCall code => .openCall (Text.lower code)
  | e => e

/-- Where two computations agree up to `f` on their errors, so they do with the same
steps after them. -/
theorem mapError_bind_map {ε α β γ : Type} {f : ε → ε} {x y : Except ε α}
    (h : x.mapError f = y.mapError f) (g : α → Except ε β) (k : β → γ) :
    ((x >>= g).map k).mapError f = ((y >>= g).map k).mapError f := by
  cases x with
  | error e =>
    cases y with
    | error e' => exact congrArg Except.error (Except.error.inj h)
    | ok b => cases h
  | ok a =>
    cases y with
    | error e' => cases h
    | ok b => rw [Except.ok.inj h]

namespace Parts

/-! ## Dividing lines in either case -/

theorem dropComment_lower (t : Text) : dropComment (Text.lower t) = Text.lower (dropComment t) := by
  fun_induction dropComment t with
  | case1 => rfl
  | case2 rest => rfl
  | case3 rest => rfl
  | case4 c rest hhash hslash ih =>
    have hhash' : c.toLower = '#' → False := fun h => hhash ((Text.toLower_eq_iff (by decide)).mp h)
    have hslash' : ∀ s, c.toLower = '/' → Text.lower rest = '/' :: s → False := by
      intro s hc hrest
      obtain ⟨d, s', rfl, hd, -⟩ := List.map_eq_cons_iff.mp hrest
      rw [Text.toLower_eq_iff (by decide)] at hc hd
      exact hslash s' hc (by rw [hd])
    show dropComment (c.toLower :: Text.lower rest) = c.toLower :: Text.lower (dropComment rest)
    rw [dropComment.eq_4 _ _ hhash' hslash', ih]

theorem dropComment_append_of_lower_eq {a b rest tail : Text} (hab : Text.lower a = Text.lower b)
    (h : dropComment (a ++ rest) = a ++ tail) : dropComment (b ++ rest) = b ++ tail := by
  have htake : ∀ t, dropComment t = t.take (dropComment t).length := fun t => by
    obtain ⟨k, hk, -⟩ := dropComment_eq_take t
    exact List.prefix_iff_eq_take.mp (hk ▸ List.take_prefix k t)
  have hlen : (dropComment (b ++ rest)).length = a.length + tail.length := by
    have hlower : Text.lower (dropComment (b ++ rest)) = Text.lower (dropComment (a ++ rest)) := by
      rw [← dropComment_lower, ← dropComment_lower, Text.lower_append, Text.lower_append, hab]
    rw [Text.length_eq_of_lower_eq hlower, h, List.length_append]
  have htail : rest.take tail.length = tail := by
    have ha := htake (a ++ rest)
    rw [h, List.length_append, List.take_length_add_append] at ha
    exact (List.append_cancel_left ha).symm
  rw [htake, hlen, Text.length_eq_of_lower_eq hab, List.take_length_add_append, htail]

variable {n m : Text}

/-- The case of a name shows in the errors that echo it. -/
theorem instruction_lowerEcho (h : Text.lower n = Text.lower m) (style : Style) (ops : List Text) :
    (instruction ⟨style, n, ops⟩).mapError LineError.lowerEcho =
      (instruction ⟨style, m, ops⟩).mapError LineError.lowerEcho := by
  have hfind : Form.find? (Form.ofStyle style) n = Form.find? (Form.ofStyle style) m := by
    rw [Form.find?, Form.find?, h]
  simp only [instruction, hfind]
  cases Form.find? (Form.ofStyle style) m with
  | none => cases style <;> simp [Except.mapError, Style.unknown, LineError.lowerEcho, h]
  | some form =>
    by_cases hlen : ops.length = form.arity
    · simp [hlen]
    · simp [hlen, Except.mapError, LineError.lowerEcho, h]

/-! ## The head of a line -/

/-- The code of a line up to the end of its name, blanks before the name
included: a name ends at the opening parenthesis of a call, and at a blank where
there is none. -/
def head (line : Text) : Text :=
  if '(' ∈ dropComment line then (dropComment line).takeWhile (· ≠ '(')
  else (dropComment line).takeWhile Text.isBlank ++
    (Text.trimStart (dropComment line)).takeWhile (fun c => !Text.isBlank c)

variable {line front args before name tail : Text}

theorem head_of_call (hm : '(' ∈ dropComment line) :
    '(' ∉ head line ∧ ∃ args, dropComment line = head line ++ '(' :: args := by
  obtain ⟨front, args, hline, hfront⟩ := List.eq_append_cons_of_mem hm
  have hnot : ∀ c ∈ front, decide (c ≠ '(') = true := fun c hc =>
    decide_eq_true fun h => hfront (h ▸ hc)
  have hhead : head line = front := by
    rw [head, if_pos hm, hline, List.takeWhile_append_of_pos hnot]
    simp
  rw [hhead]
  exact ⟨hfront, args, hline⟩

/-- Whether the code of a line is a statement: blanks, a name, and what follows the
name, with a blank before it. A line without a name is blank. -/
structure IsStatement (code before name tail : Text) : Prop where
  eq : code = before ++ name ++ tail
  allBlank : before.AllBlank
  noBlank : name.NoBlank
  blank : ∀ c ∈ tail.head?, Text.isBlank c = true
  named : tail ≠ [] → name ≠ []
  opening : '(' ∉ code

theorem head_of_statement (hm : '(' ∉ dropComment line) :
    ∃ before name tail, IsStatement (dropComment line) before name tail ∧
      head line = before ++ name := by
  let start := Text.trimStart (dropComment line)
  refine ⟨(dropComment line).takeWhile Text.isBlank,
    start.takeWhile (fun c => !Text.isBlank c), start.dropWhile (fun c => !Text.isBlank c),
    ⟨?eq, ?allBlank, ?noBlank, ?blank, ?named, hm⟩, ?head⟩
  case eq =>
    rw [List.append_assoc, List.takeWhile_append_dropWhile]
    exact List.takeWhile_append_dropWhile.symm
  case allBlank => exact List.all_eq_true.mp List.all_takeWhile
  case noBlank =>
    intro c hc
    simpa using List.all_eq_true.mp List.all_takeWhile c hc
  case blank =>
    intro c hc
    have hfirst := List.head?_dropWhile_not (fun c => !Text.isBlank c) start
    rw [hc] at hfirst
    simpa using hfirst
  case named =>
    intro htail hnil
    have hfirst := List.head?_dropWhile_not Text.isBlank (dropComment line)
    cases hstart : start with
    | nil => exact htail (by rw [hstart, List.dropWhile_nil])
    | cons c rest =>
      -- The name would start with `c`, which is not blank.
      rw [show (dropComment line).dropWhile Text.isBlank = c :: rest from hstart] at hfirst
      have hc : Text.isBlank c = false := by simpa using hfirst
      rw [hstart, List.takeWhile_cons, if_pos (by simp [hc])] at hnil
      cases hnil
  case head => rw [head, if_neg hm]

theorem code_of_front (hline : dropComment line = front ++ '(' :: args) :
    code line = Text.trimStart front ++ '(' :: Text.trimEnd args := by
  have hlast : ¬ Text.AllBlank ('(' :: args) :=
    Text.not_allBlank_of_mem List.mem_cons_self (by decide)
  rw [code, hline, Text.trim, Text.trimStart_append_cons (by decide), Text.trimEnd_append hlast,
    Text.trimEnd_cons_of_not_blank (by decide)]

theorem read?_of_front (hfront : '(' ∉ front) (args : Text) :
    read? (Text.trimStart front ++ '(' :: args) =
      (Text.dropEnd? ')' args).map fun inner =>
        ⟨.call, Text.trim front, splitOperands inner⟩ := by
  have hstart : '(' ∉ Text.trimStart front := fun h => hfront (List.dropWhile_subset _ h)
  rw [read?, cut?, Text.cutAt?_append_cons (Text.forall_beq_of_not_mem hstart) (by decide)]
  simp only [Option.map_map, Text.trim_trimStart]
  rfl

namespace IsStatement

variable {code : Text}

/-- Blanks are no letters, so a statement in another case differs in its name. -/
theorem respelled {head : Text} (h : IsStatement code before name tail)
    (hlower : Text.lower head = Text.lower (before ++ name)) :
    ∃ name', IsStatement (head ++ tail) before name' tail ∧ Text.lower name' = Text.lower name := by
  obtain ⟨before', name', rfl, hblanks, hnames⟩ := Text.exists_of_lower_eq_append hlower
  obtain rfl := Text.eq_of_lower_eq_of_allBlank h.allBlank hblanks
  refine ⟨name', ⟨rfl, h.allBlank, ?noBlank, h.blank, fun htail => ?named, ?opening⟩, hnames⟩
  case noBlank =>
    have hname := h.noBlank
    rwa [← Text.noBlank_lower_iff, ← hnames, Text.noBlank_lower_iff] at hname
  case named => exact mt (Text.eq_nil_iff_of_lower_eq hnames).mp (h.named htail)
  case opening =>
    have hopening := h.opening
    rwa [h.eq, List.mem_append, ← Text.mem_iff_of_lower_eq hlower (by decide),
      ← List.mem_append] at hopening

theorem allBlank_of_name_eq_nil (h : IsStatement code before name tail) (hnil : name = []) :
    code.AllBlank := by
  have htail : tail = [] := not_imp_not.mp h.named hnil
  rw [h.eq, hnil, htail, List.append_nil, List.append_nil]
  exact h.allBlank

theorem trim_eq (h : IsStatement code before name tail) (hne : name ≠ []) :
    Text.trim code = name ++ Text.trimEnd tail := by
  have hpadded : Text.Padded (name ++ tail) (before ++ (name ++ tail)) :=
    ⟨before, [], h.allBlank, by decide, by rw [List.append_nil]⟩
  rw [h.eq, List.append_assoc, hpadded.trim_eq, Text.trim_append_of_noBlank h.noBlank hne]

theorem read?_eq (h : IsStatement code before name tail) :
    read? (name ++ Text.trimEnd tail) = some ⟨.statement, name, splitOperands tail.tail⟩ := by
  have hopening := h.opening
  rw [h.eq, List.append_assoc, List.mem_append, not_or, List.mem_append, not_or] at hopening
  have hopening' : '(' ∉ name ++ Text.trimEnd tail := fun hm =>
    (List.mem_append.mp hm).elim hopening.2.1 fun hm => hopening.2.2 (Text.trimEnd_subset tail hm)
  refine read?_eq_statement_iff.mpr ⟨hopening', ?_⟩
  cases tail with
  | nil =>
    rw [Text.trimEnd_nil, List.append_nil]
    exact .inl ⟨h.noBlank, rfl, rfl⟩
  | cons blank rest =>
    have hblank : Text.isBlank blank = true := h.blank blank rfl
    rw [Text.trimEnd_cons, List.tail_cons]
    by_cases hrest : Text.trimEnd rest = []
    · rw [if_pos ⟨hrest, hblank⟩, List.append_nil]
      exact .inl ⟨h.noBlank, rfl, splitOperands_eq_nil_iff.mpr (Text.trimEnd_eq_nil_iff.mp hrest)⟩
    · rw [if_neg fun hnil => hrest hnil.1]
      exact .inr ⟨blank, Text.trimEnd rest, hblank, h.noBlank, rfl,
        (splitOperands_trimEnd rest).symm⟩

end IsStatement

end Parts

/-! ## Reading lines in either case -/

section Heads

variable {line front front' args before name name' tail : Text}

theorem readLine_of_front (hfront : '(' ∉ front)
    (hline : Parts.dropComment line = front ++ '(' :: args) :
    readLine line = (match Text.dropEnd? ')' (Text.trimEnd args) with
      | none => .error (.openCall (Text.trimStart front ++ '(' :: Text.trimEnd args))
      | some inner =>
        (Parts.instruction ⟨.call, Text.trim front, Parts.splitOperands inner⟩ >>=
          Instruction.checked).map some) := by
  have hcode := Parts.code_of_front hline
  have hread := Parts.read?_of_front hfront (Text.trimEnd args)
  have hne : Parts.code line ≠ [] := by rw [hcode]; simp
  cases hinner : Text.dropEnd? ')' (Text.trimEnd args) with
  | none =>
    rw [hinner, Option.map_none, ← hcode] at hread
    unfold readLine
    rw [if_neg hne, hread, hcode]
  | some inner =>
    rw [hinner, Option.map_some, ← hcode] at hread
    exact readLine_eq hne hread

theorem readLine_call_lowerEcho {line' : Text} (hlower : Text.lower front' = Text.lower front)
    (hfront : '(' ∉ front) (hline : Parts.dropComment line = front ++ '(' :: args)
    (hline' : Parts.dropComment line' = front' ++ '(' :: args) :
    (readLine line').mapError LineError.lowerEcho =
      (readLine line).mapError LineError.lowerEcho := by
  have hfront' : '(' ∉ front' := mt (Text.mem_iff_of_lower_eq hlower (by decide)).mp hfront
  rw [readLine_of_front hfront hline, readLine_of_front hfront' hline']
  cases Text.dropEnd? ')' (Text.trimEnd args) with
  | none =>
    have hstart : Text.lower (Text.trimStart front') = Text.lower (Text.trimStart front) := by
      rw [Text.trimStart, ← Text.dropWhile_isBlank_lower, hlower, Text.dropWhile_isBlank_lower,
        Text.trimStart]
    simp only [Except.mapError, LineError.lowerEcho, Text.lower_append, hstart]
  | some inner =>
    have hname : Text.lower (Text.trim front') = Text.lower (Text.trim front) := by
      rw [Text.lower_trim, hlower, ← Text.lower_trim]
    exact mapError_bind_map (Parts.instruction_lowerEcho hname _ _) _ _

theorem readLine_of_statement (h : Parts.IsStatement (Parts.dropComment line) before name tail) :
    readLine line = if name = [] then .ok none
      else (Parts.instruction ⟨.statement, name, Parts.splitOperands tail.tail⟩ >>=
        Instruction.checked).map some := by
  by_cases hne : name = []
  · have hcode : Parts.code line = [] := Text.trim_eq_nil_iff.mpr (h.allBlank_of_name_eq_nil hne)
    rw [if_pos hne]
    unfold readLine
    rw [if_pos hcode]
  · have hcode : Parts.code line = name ++ Text.trimEnd tail := h.trim_eq hne
    rw [if_neg hne]
    refine readLine_eq ?_ ?_
    · rw [hcode]
      exact List.append_ne_nil_of_left_ne_nil hne _
    · rw [hcode, h.read?_eq]

theorem readLine_statement_lowerEcho {line' : Text} (hlower : Text.lower name' = Text.lower name)
    (h : Parts.IsStatement (Parts.dropComment line) before name tail)
    (h' : Parts.IsStatement (Parts.dropComment line') before name' tail) :
    (readLine line').mapError LineError.lowerEcho =
      (readLine line).mapError LineError.lowerEcho := by
  rw [readLine_of_statement h, readLine_of_statement h']
  by_cases hne : name = []
  · rw [if_pos hne, if_pos ((Text.eq_nil_iff_of_lower_eq hlower).mpr hne)]
  · rw [if_neg hne, if_neg (mt (Text.eq_nil_iff_of_lower_eq hlower).mp hne)]
    exact mapError_bind_map (Parts.instruction_lowerEcho hlower _ _) _ _

end Heads

/-- The second line is the first one with some letters of its name in the other
case. -/
def Respelled (line line' : Text) : Prop :=
  ∃ head rest, line = Parts.head line ++ rest ∧ line' = head ++ rest ∧
    Text.lower head = Text.lower (Parts.head line)

theorem readLine_respelled {line line' : Text} (h : Respelled line line') :
    (readLine line').mapError LineError.lowerEcho =
      (readLine line).mapError LineError.lowerEcho := by
  obtain ⟨head, rest, hline, rfl, hlower⟩ := h
  have hrest : ∀ tail, Parts.dropComment line = Parts.head line ++ tail →
      Parts.dropComment (head ++ rest) = head ++ tail := fun tail htail =>
    Parts.dropComment_append_of_lower_eq hlower.symm (by rw [← hline]; exact htail)
  by_cases hm : '(' ∈ Parts.dropComment line
  · obtain ⟨hfront, args, hcode⟩ := Parts.head_of_call hm
    exact readLine_call_lowerEcho hlower hfront hcode (hrest _ hcode)
  · obtain ⟨before, name, tail, hstatement, hhead⟩ := Parts.head_of_statement hm
    have hcode := hrest tail (by rw [hhead]; exact hstatement.eq)
    rw [hhead] at hlower
    obtain ⟨name', hstatement', hnames⟩ := hstatement.respelled hlower
    rw [← hcode] at hstatement'
    exact readLine_statement_lowerEcho hnames hstatement hstatement'

end Zicsr
