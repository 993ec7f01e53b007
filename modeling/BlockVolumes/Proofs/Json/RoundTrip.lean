import BlockVolumes.Json.Read
import BlockVolumes.Proofs.Json.Lexical
import BlockVolumes.Proofs.Table
import BlockVolumes.Proofs.Time.Text

/-!
Values read back from the JSON text that their shape writes. A shape has to be faithful for that:
what it leaves out stands for the same value when it is read, and no two fields share a name.
-/

namespace BlockVolumes

open Json
open Text (utf8)

def Shape.Solid : {α : Type} → Shape α → Prop
  | _, .optional _ => False
  | _, .wrapped shape _ _ => shape.Solid
  | _, _ => True

def Fields.names : {τ : Type} → Fields τ → List String
  | _, .nil => []
  | _, .cons key _ rest => key.name :: rest.names

mutual

def Shape.Faithful : {α : Type} → Shape α → Prop
  | _, .optional shape => shape.Solid ∧ shape.Faithful
  | _, .list shape => shape.Faithful
  | _, .choice options label =>
    ∀ value, options.find? (·.1 = label value) = some (label value, value)
  | _, .record _ fields pack unpack => fields.Faithful ∧ ∀ value, pack (unpack value) = value
  | _, .wrapped shape wrap unwrap => shape.Faithful ∧ ∀ value, wrap (unwrap value) = value
  | _, _ => True

def Fields.Faithful : {τ : Type} → Fields τ → Prop
  | _, .nil => True
  | _, .cons key shape rest =>
    (∀ value, key.hidden value = true → key.absent = some value) ∧ key.name ∉ rest.names ∧
      shape.Faithful ∧ rest.Faithful

end

theorem Fields.Faithful.defaulted {α β : Type} {name : String} {value : α} {shape : Shape α}
    {rest : Fields β} (fresh : name ∉ rest.names) (shapeFaithful : shape.Faithful)
    (faithful : rest.Faithful) : (defaulted name value shape rest).Faithful :=
  ⟨fun _ hidden => Bool.noConfusion hidden, fresh, shapeFaithful, faithful⟩

theorem Fields.Faithful.required {α β : Type} {name : String} {shape : Shape α}
    {rest : Fields β} (fresh : name ∉ rest.names) (shapeFaithful : shape.Faithful)
    (faithful : rest.Faithful) : (required name shape rest).Faithful :=
  ⟨fun _ hidden => Bool.noConfusion hidden, fresh, shapeFaithful, faithful⟩

theorem Fields.Faithful.omitted {α β : Type} {name : String} {shape : Shape α}
    {rest : Fields β} (fresh : name ∉ rest.names) (solid : shape.Solid)
    (shapeFaithful : shape.Faithful) (faithful : rest.Faithful) :
    (omitted name shape rest).Faithful :=
  ⟨fun _ hidden => congrArg some (Option.isNone_iff_eq_none.1 hidden).symm, fresh,
    ⟨solid, shapeFaithful⟩, faithful⟩

def Fields.written : {τ : Type} → (fields : Fields τ) → τ → fields.Draft
  | _, .nil, () => ()
  | _, .cons key _ rest, (value, values) =>
    (if key.hidden value then none else some value, rest.written values)

theorem Fields.finish_written : {τ : Type} → (fields : Fields τ) → fields.Faithful →
    (values : τ) → fields.finish (fields.written values) = .ok values
  | _, .nil, _, () => rfl
  | _, .cons key shape rest, faithful, (value, values) => by
    obtain ⟨restored, -, -, faithful⟩ := faithful
    have later := rest.finish_written faithful values
    by_cases hidden : key.hidden value = true
    · simp [finish, written, hidden, restored value hidden, later, Except.map]
    · simp [finish, written, hidden, later, Except.map]

namespace Json

theorem skipBlanks_cons {b : UInt8} (noBlank : isBlank b = false) (rest : Input) :
    skipBlanks (b :: rest) = b :: rest := by
  simp [skipBlanks, noBlank]

theorem onValue_cons {α : Type} (read : UInt8 → Reader α) {b : UInt8}
    (noBlank : isBlank b = false) (rest : Input) : onValue read (b :: rest) = read b rest := by
  simp [onValue, skipBlanks_cons noBlank]

def apart (first : Bool) (parts : List (List Char)) : List Char :=
  match parts with
  | [] => []
  | part :: parts => (if first then part else ',' :: part) ++ parts.flatMap (',' :: ·)

theorem apart_cons (first : Bool) (part : List Char) (parts : List (List Char)) :
    apart first (part :: parts) =
      (if first then [] else [',']) ++ (part ++ apart false parts) := by
  cases first <;> cases parts <;> simp [apart]

theorem itemChars_eq (items : List Json) : itemChars items = apart true (items.map chars) := by
  induction items with
  | nil => rfl
  | cons item rest ih =>
    cases rest with
    | nil => simp [itemChars, apart]
    | cons next rest =>
      rw [itemChars, ih]
      simp [apart]

def memberPart (member : String × Json) : List Char :=
  textChars member.1 ++ ':' :: member.2.chars

theorem memberChars_eq (members : List (String × Json)) :
    memberChars members = apart true (members.map memberPart) := by
  induction members with
  | nil => rfl
  | cons member rest ih =>
    obtain ⟨name, value⟩ := member
    cases rest with
    | nil => simp [memberChars, apart, memberPart]
    | cons next rest =>
      simp only [memberChars, ih]
      simp [apart, memberPart]

theorem length_le_apart (first : Bool) (parts : List (List Char)) :
    parts.length ≤ (utf8 (apart first parts)).length + 1 := by
  cases parts with
  | nil => simp
  | cons part parts =>
    have later : parts.length ≤ (utf8 (parts.flatMap (',' :: ·))).length := by
      induction parts with
      | nil => simp
      | cons next parts ih =>
        have comma' : (String.utf8EncodeChar ',').length = 1 := rfl
        simp only [List.flatMap_cons, List.cons_append, Text.utf8_cons, Text.utf8_append,
          List.length_append, List.length_cons, comma']
        omega
    simp only [apart, Text.utf8_append, List.length_append, List.length_cons]
    omega

theorem stops_apart (parts : List (List Char)) (rest : Input) :
    Stops rest → Stops (utf8 (apart false parts) ++ rest) := by
  cases parts with
  | nil => exact id
  | cons part parts => exact fun _ => .inl rfl

/-- How the text of a value starts: not with a blank or the end of a list, nor like null unless it
may be null. -/
def Opens (solid : Prop) (s : List Char) : Prop :=
  ∃ b bytes, utf8 s = b :: bytes ∧ isBlank b = false ∧ b ≠ closeList ∧ (solid → b ≠ letterN)

theorem opens_text (solid : Prop) (s : String) : Opens solid (textChars s) :=
  ⟨quote, _, utf8_textChars s, rfl, by decide, fun _ => by decide⟩

theorem opens_toDigits (solid : Prop) (n : Nat) : Opens solid (Nat.toDigits 10 n) := by
  obtain ⟨c, ds, digits⟩ := List.exists_cons_of_ne_nil (Nat.toDigits_ne_nil (n := n) (b := 10))
  have digit : c.isDigit = true :=
    Text.isDigit_of_mem_toDigits (digits ▸ List.mem_cons_self)
  have other {b : UInt8} (noDigit : isDigit b = false) : UInt8.ofNat c.toNat ≠ b := fun same => by
    rw [← same, isDigit_digit digit] at noDigit
    cases noDigit
  exact ⟨_, _, digits ▸ Text.utf8_digit digit ds, isBlank_digit digit, other (by decide),
    fun _ => other (by decide)⟩

theorem nextItem_of_opens {solid : Prop} {part : List Char} (opens : Opens solid part)
    (first : Bool) (rest : Input) :
    nextItem first (utf8 ((if first then [] else [',']) ++ part) ++ rest) =
      .ok (some (utf8 part ++ rest)) := by
  obtain ⟨b, bytes, text, noBlank, open', -⟩ := opens
  cases first with
  | true => simp [nextItem, skipBlanks, text, noBlank, open']
  | false =>
    have separator : utf8 (',' :: part) = comma :: utf8 part := rfl
    have notBlank : isBlank comma = false := rfl
    have notClosed : comma ≠ closeList := by decide
    simp [nextItem, skipBlanks, separator, notBlank, notClosed, text, noBlank, open']

theorem items_of_reads {α : Type} {item : Reader α} {write : α → List Char} {solid : Prop}
    (opens : ∀ value, Opens solid (write value))
    (reads : ∀ value rest, Stops rest → item (utf8 (write value) ++ rest) = .ok (value, rest))
    (values reversed : List α) (first : Bool) (steps : Nat) (enough : values.length ≤ steps)
    (rest : Input) :
    items item steps first reversed (utf8 (apart first (values.map write)) ++ closeList :: rest) =
      .ok (reversed.reverse ++ values, closeList :: rest) := by
  induction values generalizing reversed first steps with
  | nil =>
    cases steps with
    | zero => simp [items, apart]
    | succ steps =>
      have notBlank : isBlank closeList = false := rfl
      simp [items, apart, nextItem, skipBlanks, notBlank, bind, Except.bind]
  | cons value values ih =>
    obtain ⟨steps, rfl⟩ : ∃ n, steps = n + 1 := ⟨steps - 1, by simp at enough; omega⟩
    have stops := stops_apart (values.map write) (closeList :: rest) (.inr (.inl rfl))
    have next := nextItem_of_opens (opens value) first
      (utf8 (apart false (values.map write)) ++ closeList :: rest)
    rw [List.map_cons, apart_cons, ← List.append_assoc, Text.utf8_append, List.append_assoc, items,
      next]
    simp only [bind, Except.bind, reads value _ stops]
    rw [ih (value :: reversed) false steps (by simp at enough; omega)]
    simp

inductive Absorbs {σ : Type} (member : String → σ → Reader σ) :
    σ → List (String × Json) → σ → Prop
  | none {s : σ} : Absorbs member s [] s
  | one {s s' s'' : σ} {name : String} {value : Json} {later : List (String × Json)}
      (read : ∀ rest, Stops rest →
        member name s (colon :: (utf8 value.chars ++ rest)) = .ok (s', rest))
      (absorbs : Absorbs member s' later s'') : Absorbs member s ((name, value) :: later) s''

theorem nextMember_of_text (first : Bool) (name : String) (rest : Input) :
    nextMember first (utf8 ((if first then [] else [',']) ++ textChars name) ++ rest) =
      .ok (some (utf8 (name.toList.flatMap escape) ++ quote :: rest)) := by
  have noBlank : isBlank quote = false := rfl
  cases first with
  | true =>
    have notClosed : quote ≠ closeObject := by decide
    simp [nextMember, skipBlanks, utf8_textChars, noBlank, notClosed]
  | false =>
    have separator (s : List Char) : utf8 (',' :: s) = comma :: utf8 s := rfl
    have notBlank : isBlank comma = false := rfl
    have notClosed : comma ≠ closeObject := by decide
    simp [nextMember, skipBlanks, separator, utf8_textChars, noBlank, notBlank, notClosed]

theorem members_of_absorbs {σ : Type} {member : String → σ → Reader σ} {s s' : σ}
    {json : List (String × Json)} (absorbs : Absorbs member s json s') (first : Bool)
    (steps : Nat) (enough : json.length ≤ steps) (rest : Input) :
    members member steps first s
        (utf8 (apart first (json.map memberPart)) ++ closeObject :: rest) =
      .ok (s', closeObject :: rest) := by
  induction absorbs generalizing first steps with
  | none =>
    cases steps with
    | zero => simp [members, apart]
    | succ steps =>
      have notBlank : isBlank closeObject = false := rfl
      simp [members, apart, nextMember, skipBlanks, notBlank, bind, Except.bind]
  | @one s s' s'' name value later read _ ih =>
    obtain ⟨steps, rfl⟩ : ∃ n, steps = n + 1 := ⟨steps - 1, by simp at enough; omega⟩
    have stops := stops_apart (later.map memberPart) (closeObject :: rest) (.inr (.inr rfl))
    have colon' (s : List Char) : utf8 (':' :: s) = colon :: utf8 s := rfl
    rw [List.map_cons, apart_cons, memberPart]
    have next := nextMember_of_text first name
      (colon :: (utf8 value.chars ++
        (utf8 (apart false (later.map memberPart)) ++ closeObject :: rest)))
    rw [Text.utf8_append] at next
    simp only [Text.utf8_append, colon', List.append_assoc, List.cons_append] at next ⊢
    rw [members, next]
    simp only [bind, Except.bind, stringText_escapes, read _ stops]
    exact ih false steps (by simp at enough; omega)

theorem utf8_list (items : List Json) (rest : Input) :
    utf8 (list items).chars ++ rest =
      openList :: (utf8 (apart true (items.map chars)) ++ closeList :: rest) := by
  have first (s : List Char) : utf8 ('[' :: s) = openList :: utf8 s := rfl
  have last : utf8 [']'] = [closeList] := rfl
  simp [chars, first, last, itemChars_eq]

theorem utf8_object (members : List (String × Json)) (rest : Input) :
    utf8 (object members).chars ++ rest =
      openObject :: (utf8 (apart true (members.map memberPart)) ++ closeObject :: rest) := by
  have first (s : List Char) : utf8 ('\x7b' :: s) = openObject :: utf8 s := rfl
  have last : utf8 ['\x7d'] = [closeObject] := rfl
  simp [chars, first, last, memberChars_eq]

theorem members_of_object {σ : Type} {member : String → σ → Reader σ} {s s' : σ}
    {json : List (String × Json)} (absorbs : Absorbs member s json s') (rest : Input)
    {input : Input}
    (text : utf8 (apart true (json.map memberPart)) ++ closeObject :: rest = input) :
    members member (input.length + 1) true s input = .ok (s', closeObject :: rest) := by
  have enough := length_le_apart true (json.map memberPart)
  subst text
  exact members_of_absorbs absorbs true _ (by simp at enough ⊢; omega) rest

theorem skipColon_cons (rest : Input) : skipColon (colon :: rest) = .ok rest := rfl

theorem items_of_list {α : Type} {item : Reader α} {write : α → List Char} {solid : Prop}
    (opens : ∀ value, Opens solid (write value))
    (reads : ∀ value rest, Stops rest → item (utf8 (write value) ++ rest) = .ok (value, rest))
    (values : List α) (rest : Input) {input : Input}
    (text : utf8 (apart true (values.map write)) ++ closeList :: rest = input) :
    items item (input.length + 1) true [] input = .ok (values, closeList :: rest) := by
  have enough := length_le_apart true (values.map write)
  subst text
  exact items_of_reads opens reads values [] true _ (by simp at enough ⊢; omega) rest

theorem closing_cons (rest : Input) : closing (closeList :: rest) = .ok rest := rfl

theorem closeBrace_cons (rest : Input) : closeBrace (closeObject :: rest) = .ok rest := rfl

theorem readText_textChars (expected s : String) (rest : Input) :
    readText expected (utf8 (textChars s) ++ rest) = .ok (s, rest) := by
  have noBlank : isBlank quote = false := rfl
  rw [utf8_textChars, List.cons_append, readText, onValue_cons _ noBlank, if_pos rfl,
    List.append_assoc]
  exact stringText_escapes s rest

theorem readWord_toDigits {ω : Type} (ofNumber : Number → Except Mismatch ω) (expected : String)
    {n : Nat} (fits : n < wordLimit) {rest : Input} (stops : Stops rest) :
    readWord ofNumber expected (utf8 (Nat.toDigits 10 n) ++ rest) =
      checked (ofNumber (.integer n)) rest := by
  have read := number?_toDigits fits stops
  obtain ⟨c, ds, digits⟩ := List.exists_cons_of_ne_nil (Nat.toDigits_ne_nil (n := n) (b := 10))
  have digit : c.isDigit = true :=
    Text.isDigit_of_mem_toDigits (digits ▸ List.mem_cons_self)
  rw [digits, Text.utf8_digit digit, List.cons_append] at read ⊢
  rw [readWord, onValue_cons _ (isBlank_digit digit), read]
  rfl

theorem absorbs_entries (entries : List (String × String)) (t : Table String) :
    Absorbs tableMember t (entries.map fun (key, value) => (key, .text value))
      (entries.foldl (fun t (key, value) => t.insert key value) t) := by
  induction entries generalizing t with
  | nil => exact .none
  | cons entry entries ih =>
    refine .one (fun rest _ => ?_) (ih _)
    have read := readText_textChars "a string" entry.2 rest
    simp [tableMember, skipColon_cons, chars, read, bind, Except.bind]

end Json

theorem Shape.opens : {α : Type} → (shape : Shape α) → (value : α) →
    Opens shape.Solid (shape.toJson value).chars
  | _, .text, s => opens_text _ s
  | _, .path, s => opens_text _ s
  | _, .flag, true => ⟨letterT, _, rfl, rfl, by decide, fun _ => by decide⟩
  | _, .flag, false => ⟨letterF, _, rfl, rfl, by decide, fun _ => by decide⟩
  | _, .word32, n => opens_toDigits _ n.toNat
  | _, .word64, n => opens_toDigits _ n.toNat
  | _, .time, t => opens_text _ t.write
  | _, .table, t => ⟨openObject, _, rfl, rfl, by decide, fun _ => by decide⟩
  | _, .optional _, none => ⟨letterN, _, rfl, rfl, by decide, False.elim⟩
  | _, .optional shape, some value => by
    obtain ⟨b, bytes, text, noBlank, notClosed, -⟩ := shape.opens value
    exact ⟨b, bytes, text, noBlank, notClosed, False.elim⟩
  | _, .list shape, values => ⟨openList, _, rfl, rfl, by decide, fun _ => by decide⟩
  | _, .choice _ label, value => opens_text _ (label value)
  | _, .record _ fields _ unpack, value =>
    ⟨openObject, _, rfl, rfl, by decide, fun _ => by decide⟩
  | _, .wrapped shape _ unwrap, value => shape.opens (unwrap value)

theorem wordOf_toNat {ω : Type} {limit : Nat} {make : Nat → ω} {expected : String} {n : Nat}
    (below : n < limit) : wordOf limit make expected (.integer n) = .ok (make n) := by
  have inRange : (0 : Int) ≤ n ∧ (n : Int) < limit := by omega
  simp only [wordOf]
  rw [if_pos inRange]
  simp

mutual

theorem Shape.read_toJson : {α : Type} → (shape : Shape α) → shape.Faithful → (value : α) →
    (rest : Input) → Stops rest →
    shape.read (utf8 (shape.toJson value).chars ++ rest) = .ok (value, rest)
  | _, .text, _, s, rest, _ => readText_textChars "a string" s rest
  | _, .path, _, s, rest, _ => readText_textChars "path string" s rest
  | _, .flag, _, b, rest, _ => by cases b <;> rfl
  | _, .word32, _, n, rest, stops => by
    have below := n.toNat_lt
    have fits : n.toNat < wordLimit := Nat.lt_trans below (by decide)
    have value := readWord_toDigits word32Of "u32" fits stops
    rw [show word32Of (.integer n.toNat) = .ok (UInt32.ofNat n.toNat) from wordOf_toNat below]
      at value
    simpa [Shape.read, Shape.toJson, natural, chars, numberChars, checked] using value
  | _, .word64, _, n, rest, stops => by
    have below := n.toNat_lt
    have value := readWord_toDigits word64Of "u64" (n := n.toNat) below stops
    rw [show word64Of (.integer n.toNat) = .ok (UInt64.ofNat n.toNat) from wordOf_toNat below]
      at value
    simpa [Shape.read, Shape.toJson, natural, chars, numberChars, checked] using value
  | _, .time, _, t, rest, _ => by
    have text := readText_textChars "an RFC 3339 formatted date and time string" t.write rest
    simp [Shape.read, Shape.toJson, chars, text, bind, Except.bind, timeOf, Time.read_write,
      checked]
  | _, .table, _, t, rest, _ => by
    have noBlank : isBlank openObject = false := rfl
    have read := members_of_object (absorbs_entries t.entries .empty) rest rfl
    rw [Shape.toJson, utf8_object, Shape.read, readTable, onValue_cons _ noBlank, if_pos rfl, read]
    simp only [bind, Except.bind, closeBrace_cons]
    exact congrArg (fun table => Except.ok (table, rest)) t.ofList_entries
  | _, .optional shape, _, none, rest, _ => rfl
  | _, .optional shape, faithful, some value, rest, stops => by
    obtain ⟨solid, faithful⟩ := faithful
    obtain ⟨b, bytes, text, noBlank, -, notNull⟩ := shape.opens value
    have read := shape.read_toJson faithful value rest stops
    rw [text, List.cons_append] at read
    rw [Shape.toJson, text, List.cons_append, Shape.read]
    simp only [skipBlanks_cons noBlank]
    split
    · rename_i same
      exact absurd (List.cons.inj same).1 (notNull solid)
    · rw [read]
      rfl
  | _, .list shape, faithful, values, rest, stops => by
    have noBlank : isBlank openList = false := rfl
    have read := items_of_list (fun value => shape.opens value)
      (fun value rest stops => shape.read_toJson faithful value rest stops) values rest rfl
    rw [Shape.toJson, utf8_list, List.map_map, Shape.read, onValue_cons _ noBlank, if_pos rfl]
    simp only [Function.comp_def, read, bind, Except.bind, closing_cons]
  | _, .choice options label, faithful, value, rest, stops => by
    have noBlank : isBlank quote = false := rfl
    have pick : pickOption options (label value) = .ok value := by
      simp [pickOption, faithful value]
    rw [Shape.toJson, chars, utf8_textChars, List.cons_append, Shape.read, readChoice]
    simp only [skipBlanks_cons noBlank, if_true, List.append_assoc, List.singleton_append,
      stringText_escapes, bind, Except.bind, pick, checked]
  | _, .record _ fields pack unpack, faithful, value, rest, stops => by
    obtain ⟨faithful, packed⟩ := faithful
    have noBlank : isBlank openObject = false := rfl
    have absorbs : Absorbs fields.readMember fields.blank (fields.toJson (unpack value))
        (fields.written (unpack value)) :=
      fields.absorbs_toJson faithful (unpack value) fields.readMember id
        fun name _ draft input => by
        show fields.readMember name draft input = _
        cases fields.readMember name draft input <;> rfl
    have read := members_of_object absorbs rest rfl
    rw [Shape.toJson, utf8_object, Shape.read, onValue_cons _ noBlank, if_pos rfl, read]
    simp [bind, Except.bind, closeBrace_cons, fields.finish_written faithful, packed]
  | _, .wrapped shape wrap unwrap, faithful, value, rest, stops => by
    obtain ⟨faithful, wrapped⟩ := faithful
    have read := shape.read_toJson faithful (unwrap value) rest stops
    simp [Shape.toJson, Shape.read, read, bind, Except.bind, wrapped]

theorem Fields.absorbs_toJson : {τ : Type} → (fields : Fields τ) → fields.Faithful →
    (values : τ) → {σ : Type} → (member : String → σ → Reader σ) → (lift : fields.Draft → σ) →
    (agrees : ∀ name ∈ fields.names, ∀ draft input, member name (lift draft) input =
      (fields.readMember name draft input).map fun (draft, rest) => (lift draft, rest)) →
    Absorbs member (lift fields.blank) (fields.toJson values) (lift (fields.written values))
  | _, .nil, _, (), _, _, _, _ => .none
  | _, .cons key shape rest, faithful, (value, values), _, member, lift, agrees => by
    obtain ⟨-, fresh, shapeFaithful, faithful⟩ := faithful
    -- the fields after this one read as they do by themselves
    have later (met : Option _) := rest.absorbs_toJson faithful values member
      (fun draft => lift (met, draft)) fun name known draft input => by
        have other : name ≠ key.name := fun same => fresh (same ▸ known)
        apply (agrees name (List.mem_cons_of_mem _ known) (met, draft) input).trans
        simp only [Fields.readMember, other, if_false, bind, Except.bind]
        cases rest.readMember name draft input <;> rfl
    by_cases hidden : key.hidden value = true
    · simp only [Fields.toJson, Fields.written, hidden, if_true]
      exact later none
    · simp only [Fields.toJson, Fields.written, hidden]
      refine .one (fun input stops => ?_) (later (some value))
      rw [agrees key.name List.mem_cons_self]
      simp [Fields.readMember, Fields.blank, skipColon_cons, bind, Except.bind,
        shape.read_toJson shapeFaithful value input stops, Except.map]

end

theorem Shape.decode_bytes {α : Type} {shape : Shape α} (faithful : shape.Faithful) (value : α) :
    shape.decode (shape.toJson value).bytes = .ok value := by
  have read := shape.read_toJson faithful value [] trivial
  rw [List.append_nil] at read
  rw [bytes, compact, Text.toUTF8_ofList, decode, read]
  rfl

end BlockVolumes
