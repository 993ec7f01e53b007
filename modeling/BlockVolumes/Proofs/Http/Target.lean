import BlockVolumes.Http.Url
import BlockVolumes.Http.Route
import BlockVolumes.Proofs.Text.Encoding
import BlockVolumes.Proofs.Text.Letters
import Mathlib.Data.List.TakeWhile

/-! Targets that reach a server as they were written: what a client puts into a path is what the
server takes out of it. -/

namespace BlockVolumes

namespace Text

theorem toUTF8_toList (s : String) : s.toUTF8.toList = utf8 s.toList := by
  rw [← toUTF8_ofList, String.ofList_toList]

theorem utf8_of_small {s : List Char} (small : ∀ c ∈ s, c.toNat < 128) :
    utf8 s = s.map fun c => UInt8.ofNat c.toNat := by
  induction s with
  | nil => rfl
  | cons c rest ih =>
    obtain ⟨first, later⟩ := List.forall_mem_cons.1 small
    rw [utf8_cons, utf8EncodeChar_of_small first, ih later]
    rfl

theorem decoded_of_small {s : List Char} (small : ∀ c ∈ s, c.toNat < 128) :
    decoded (s.map fun c => UInt8.ofNat c.toNat) = s.map some := by
  induction s with
  | nil => simp [decoded]
  | cons c rest ih =>
    obtain ⟨first, later⟩ := List.forall_mem_cons.1 small
    have number : (UInt8.ofNat c.toNat).toNat = c.toNat := by
      rw [UInt8.toNat_ofNat']
      omega
    have below : UInt8.ofNat c.toNat < 0x80 := by
      rw [UInt8.lt_iff_toNat_lt, number]
      exact first
    have next (bytes : List UInt8) : nextChar (UInt8.ofNat c.toNat) bytes = (some c, bytes) := by
      unfold nextChar
      rw [if_pos below, number, Char.ofNat_toNat]
    rw [List.map_cons, decoded, next, ih later]
    rfl

theorem decode?_of_small {s : List Char} (small : ∀ c ∈ s, c.toNat < 128) :
    decode? (utf8 s) = some (String.ofList s) := by
  have whole : (s.map some).mapM id = some s := by
    induction s with
    | nil => rfl
    | cons c rest ih =>
      simp [List.mapM_cons, ih (List.forall_mem_cons.1 small).2]
  rw [utf8_of_small small, decode?, decoded_of_small small, whole]
  rfl

theorem toUTF8_toList_inj {s t : String} : s.toUTF8.toList = t.toUTF8.toList ↔ s = t := by
  rw [ByteArray.toList_eq, ByteArray.toList_eq, Array.toList_inj, ← ByteArray.ext_iff]
  exact String.toByteArray_inj

end Text

namespace Http

theorem splitBytes_of_not_mem {separator : UInt8} {bytes : List UInt8}
    (absent : separator ∉ bytes) : splitBytes separator bytes = [bytes] := by
  induction bytes with
  | nil => rfl
  | cons b rest ih =>
    have other : b ≠ separator := (List.ne_of_not_mem_cons absent).symm
    rw [splitBytes, if_neg other, ih (List.not_mem_of_not_mem_cons absent)]

theorem splitBytes_append_cons {separator : UInt8} {first rest : List UInt8}
    (absent : separator ∉ first) :
    splitBytes separator (first ++ separator :: rest) = first :: splitBytes separator rest := by
  induction first with
  | nil => simp [splitBytes]
  | cons b first ih =>
    have other : b ≠ separator := (List.ne_of_not_mem_cons absent).symm
    rw [List.cons_append, splitBytes, if_neg other, ih (List.not_mem_of_not_mem_cons absent)]

theorem intercalate_cons_cons (separator : UInt8) (piece next : List UInt8)
    (rest : List (List UInt8)) : [separator].intercalate (piece :: next :: rest) =
      piece ++ separator :: [separator].intercalate (next :: rest) := by
  simp [List.intercalate, List.intersperse]

theorem mem_of_mem_intercalate {separator b : UInt8} {pieces : List (List UInt8)}
    (member : b ∈ [separator].intercalate pieces) :
    b = separator ∨ ∃ piece ∈ pieces, b ∈ piece := by
  induction pieces with
  | nil => simp [List.intercalate] at member
  | cons piece rest ih =>
    cases rest with
    | nil => exact .inr ⟨piece, List.mem_cons_self, by simpa [List.intercalate] using member⟩
    | cons next rest =>
      rw [intercalate_cons_cons, List.mem_append, List.mem_cons] at member
      rcases member with here | rfl | later
      · exact .inr ⟨piece, List.mem_cons_self, here⟩
      · exact .inl rfl
      · rcases ih later with same | ⟨piece, among, here⟩
        · exact .inl same
        · exact .inr ⟨piece, List.mem_cons_of_mem _ among, here⟩

theorem splitBytes_intercalate {separator : UInt8} {pieces : List (List UInt8)}
    (given : pieces ≠ []) (absent : ∀ piece ∈ pieces, separator ∉ piece) :
    splitBytes separator ([separator].intercalate pieces) = pieces := by
  induction pieces with
  | nil => exact absurd rfl given
  | cons piece rest ih =>
    obtain ⟨here, later⟩ := List.forall_mem_cons.1 absent
    cases rest with
    | nil => simpa [List.intercalate] using splitBytes_of_not_mem here
    | cons next rest =>
      rw [intercalate_cons_cons, splitBytes_append_cons here, ih (by simp) later]

theorem unescape_of_not_mem {bytes : List UInt8} (absent : percentSign ∉ bytes) :
    unescape bytes = bytes := by
  induction bytes using unescape.induct with
  | case1 | case2 | case3 => simp [unescape]
  | case4 | case5 => simp at absent
  | case6 b high low rest other ih =>
    rw [unescape, if_neg other, ih (List.not_mem_of_not_mem_cons absent)]

def standsForItself (c : Char) : Bool :=
  c.toNat < 128 && isPlainInPath (UInt8.ofNat c.toNat) && !("/\\%".toList.contains c)

theorem standsForItself_iff {c : Char} : standsForItself c = true ↔
    c.toNat < 128 ∧ isPlainInPath (UInt8.ofNat c.toNat) = true ∧ c ≠ '/' ∧ c ≠ '\\' ∧ c ≠ '%' := by
  simp [standsForItself, and_assoc]

theorem not_standsForItself_percent : ¬ standsForItself '%' = true := by
  simp [standsForItself_iff]

structure PlainSegment (s : String) : Prop where
  plain : ∀ c ∈ s.toList, standsForItself c = true
  ne_dot : s ≠ "."
  ne_doubleDot : s ≠ ".."

theorem eq_of_toLower_eq {c d : Char} (mark : d.toNat < 97) (same : c.toLower = d) : c = d := by
  rw [← Char.toNat_inj, Text.toNat_toLower] at same
  apply Char.toNat_inj.1
  split at same <;> omega

theorem eq_of_map_toLower_eq {s form : List Char} (marks : ∀ c ∈ form, c.toNat < 97)
    (same : s.map Char.toLower = form) : s = form := by
  subst same
  induction s with
  | nil => rfl
  | cons c rest ih =>
    obtain ⟨first, later⟩ := List.forall_mem_cons.1 marks
    exact List.cons_eq_cons.2 ⟨eq_of_toLower_eq first rfl, ih later⟩

namespace PlainSegment

variable {s : String}

theorem small (segment : PlainSegment s) : ∀ c ∈ s.toList, c.toNat < 128 := by
  intro c member
  exact (standsForItself_iff.1 (segment.plain c member)).1

theorem bytes_eq (segment : PlainSegment s) :
    s.toUTF8.toList = s.toList.map fun c => UInt8.ofNat c.toNat := by
  rw [Text.toUTF8_toList, Text.utf8_of_small segment.small]

theorem not_mem (segment : PlainSegment s) (mark : Char) (ascii : mark.toNat < 128)
    (other : ¬ standsForItself mark = true) : UInt8.ofNat mark.toNat ∉ s.toUTF8.toList := by
  rw [segment.bytes_eq]
  intro member
  obtain ⟨c, there, same⟩ := List.mem_map.1 member
  have small := segment.small c there
  have numbers := congrArg UInt8.toNat same
  rw [UInt8.toNat_ofNat', UInt8.toNat_ofNat'] at numbers
  have : c.toNat = mark.toNat := by omega
  obtain rfl := Char.toNat_inj.1 this
  exact other (segment.plain _ there)

theorem lowerText_eq (segment : PlainSegment s) :
    Uri.lowerText s.toUTF8.toList = String.ofList (s.toList.map Char.toLower) := by
  rw [segment.bytes_eq, Uri.lowerText, List.map_map]
  congr 1
  apply List.map_congr_left
  intro c member
  have number : (UInt8.ofNat c.toNat).toNat = c.toNat := by
    have := segment.small c member
    rw [UInt8.toNat_ofNat']
    omega
  rw [Function.comp_apply, number, Char.ofNat_toNat]

theorem lowerText_eq_iff (segment : PlainSegment s) {form : String}
    (marks : ∀ c ∈ form.toList, c.toLower = c ∧ c.toNat < 97) :
    Uri.lowerText s.toUTF8.toList = form ↔ s = form := by
  rw [segment.lowerText_eq, ← String.toList_inj, String.toList_ofList, ← String.toList_inj]
  constructor
  · exact eq_of_map_toLower_eq fun c member => (marks c member).2
  · intro same
    rw [same]
    calc
      form.toList.map Char.toLower = form.toList.map id :=
        List.map_congr_left fun c member => (marks c member).1
      _ = form.toList := List.map_id _

theorem lowerText_ne (segment : PlainSegment s) {form : String} (percent : '%' ∈ form.toList) :
    Uri.lowerText s.toUTF8.toList ≠ form := by
  rw [segment.lowerText_eq]
  rintro rfl
  obtain ⟨c, there, lowered⟩ := List.mem_map.1 (String.toList_ofList ▸ percent)
  obtain rfl := eq_of_toLower_eq (by decide) lowered
  exact not_standsForItself_percent (segment.plain _ there)

theorem not_isDot (segment : PlainSegment s) : Uri.isDot s.toUTF8.toList = false := by
  have dot : Uri.lowerText s.toUTF8.toList ≠ "." :=
    mt (segment.lowerText_eq_iff (by simp)).1 segment.ne_dot
  have escape : Uri.lowerText s.toUTF8.toList ≠ "%2e" := segment.lowerText_ne (by decide)
  unfold Uri.isDot
  simp only [List.contains_eq_mem, List.mem_cons, dot, escape, List.not_mem_nil, or_self,
    decide_false]

theorem not_isDoubleDot (segment : PlainSegment s) : Uri.isDoubleDot s.toUTF8.toList = false := by
  have dots : Uri.lowerText s.toUTF8.toList ≠ ".." :=
    mt (segment.lowerText_eq_iff (by simp)).1 segment.ne_doubleDot
  have first : Uri.lowerText s.toUTF8.toList ≠ ".%2e" := segment.lowerText_ne (by decide)
  have second : Uri.lowerText s.toUTF8.toList ≠ "%2e." := segment.lowerText_ne (by decide)
  have both : Uri.lowerText s.toUTF8.toList ≠ "%2e%2e" := segment.lowerText_ne (by decide)
  unfold Uri.isDoubleDot
  simp only [List.contains_eq_mem, List.mem_cons, dots, first, second, both, List.not_mem_nil,
    or_self, decide_false]

theorem escaped_eq (segment : PlainSegment s) :
    escapeUnless isPlainInPath s.toUTF8.toList = s.toUTF8.toList := by
  have each : ∀ b ∈ s.toUTF8.toList, isPlainInPath b = true := by
    rw [segment.bytes_eq]
    intro b member
    obtain ⟨c, there, rfl⟩ := List.mem_map.1 member
    exact (standsForItself_iff.1 (segment.plain c there)).2.1
  calc
    escapeUnless isPlainInPath s.toUTF8.toList = s.toUTF8.toList.flatMap ([·]) := by
      rw [escapeUnless, List.flatMap_def, List.flatMap_def]
      congr 1
      exact List.map_congr_left fun b member => if_pos (each b member)
    _ = s.toUTF8.toList := List.flatMap_singleton' _

theorem decode?_unescape (segment : PlainSegment s) :
    Text.decode? (unescape s.toUTF8.toList) = some s := by
  have percent : percentSign ∉ s.toUTF8.toList :=
    segment.not_mem '%' (by decide) not_standsForItself_percent
  rw [unescape_of_not_mem percent, Text.toUTF8_toList, Text.decode?_of_small segment.small,
    String.ofList_toList]

end PlainSegment

namespace Uri

theorem settle_plain {segments : List String} (plain : ∀ s ∈ segments, PlainSegment s)
    (passed : List (List UInt8)) :
    settle passed (segments.map (·.toUTF8.toList)) =
      passed ++ segments.map (·.toUTF8.toList) := by
  induction segments generalizing passed with
  | nil => simp [settle]
  | cons s rest ih =>
    obtain ⟨first, later⟩ := List.forall_mem_cons.1 plain
    have stays : ∀ later, settle passed (s.toUTF8.toList :: later) =
        settle (passed ++ [s.toUTF8.toList]) later := by
      intro later
      simp only [settle, first.not_isDoubleDot, first.not_isDot, first.escaped_eq,
        Bool.false_eq_true, if_false]
    rw [List.map_cons, stays, ih later, List.append_assoc, List.singleton_append]

def ofSegments (segments : List String) : List UInt8 :=
  slash :: [slash].intercalate (segments.map (·.toUTF8.toList))

theorem ne_of_mem_ofSegments {segments : List String} (plain : ∀ s ∈ segments, PlainSegment s)
    (mark : Char) (ascii : mark.toNat < 128) (special : ¬ standsForItself mark = true)
    (other : UInt8.ofNat mark.toNat ≠ slash) :
    ∀ b ∈ ofSegments segments, b ≠ UInt8.ofNat mark.toNat := by
  rintro b member rfl
  rcases List.mem_cons.1 member with same | inside
  · exact other same
  · rcases mem_of_mem_intercalate inside with same | ⟨piece, among, within⟩
    · exact other same
    · obtain ⟨s, there, rfl⟩ := List.mem_map.1 among
      exact (plain s there).not_mem mark ascii special within

theorem splitBytes_ofSegments {segments : List String} (given : segments ≠ [])
    (plain : ∀ s ∈ segments, PlainSegment s) :
    splitBytes slash ([slash].intercalate (segments.map (·.toUTF8.toList))) =
      segments.map (·.toUTF8.toList) := by
  apply splitBytes_intercalate (by simpa using given)
  intro piece member
  obtain ⟨s, there, rfl⟩ := List.mem_map.1 member
  exact (plain s there).not_mem '/' (by decide) (by decide +kernel)

theorem normal_ofSegments {segments : List String} (given : segments ≠ [])
    (plain : ∀ s ∈ segments, PlainSegment s) :
    normal (ofSegments segments) = ⟨ofSegments segments, []⟩ := by
  have hashes : ∀ b ∈ ofSegments segments, b ≠ hash :=
    ne_of_mem_ofSegments plain '#' (by decide) (by decide +kernel) (by decide)
  have questions : ∀ b ∈ ofSegments segments, b ≠ question :=
    ne_of_mem_ofSegments plain '?' (by decide) (by decide +kernel) (by decide)
  have backslashes : ∀ b ∈ ofSegments segments, b ≠ 92 :=
    ne_of_mem_ofSegments plain '\\' (by decide) (by decide +kernel) (by decide)
  have noFragment : (ofSegments segments).takeWhile (· ≠ hash) = ofSegments segments :=
    List.takeWhile_eq_self_iff.2 fun b member => decide_eq_true (hashes b member)
  have noQuery : (ofSegments segments).takeWhile (· ≠ question) = ofSegments segments :=
    List.takeWhile_eq_self_iff.2 fun b member => decide_eq_true (questions b member)
  have nothing : (ofSegments segments).dropWhile (· ≠ question) = [] :=
    List.dropWhile_eq_nil_iff.2 fun b member => decide_eq_true (questions b member)
  have slashed : ((ofSegments segments).map fun b => if b = 92 then slash else b) =
      ofSegments segments := by
    calc
      _ = (ofSegments segments).map id :=
        List.map_congr_left fun b member => if_neg (backslashes b member)
      _ = ofSegments segments := List.map_id _
  have path : settle [] (splitBytes slash ((ofSegments segments).drop 1)) =
      segments.map (·.toUTF8.toList) := by
    rw [ofSegments, List.drop_one, List.tail_cons, splitBytes_ofSegments given plain,
      settle_plain plain, List.nil_append]
  have rooted : (ofSegments segments).head? = some slash := rfl
  simp only [normal, noFragment, noQuery, nothing, slashed, rooted, if_true, path]
  rfl

theorem segments?_ofSegments {segments : List String} (given : segments ≠ [])
    (plain : ∀ s ∈ segments, PlainSegment s) :
    segments? ⟨ofSegments segments, []⟩ = some (segments.map (·.toUTF8.toList)) := by
  rw [segments?, ofSegments, splitBytes, if_pos rfl, splitBytes_ofSegments given plain]

end Uri

namespace Segment

def suits : Segment → String → Bool
  | fixed name, s => name == s
  | free, s => s != ""

theorem fits_text (segment : Segment) (s : String) :
    segment.fits s.toUTF8.toList = segment.suits s := by
  cases segment with
  | fixed name =>
    rw [fits, suits, Bool.beq_eq_decide_eq, Bool.beq_eq_decide_eq, decide_eq_decide]
    exact Text.toUTF8_toList_inj
  | free =>
    have none : "".toUTF8.toList = [] := by
      rw [Text.toUTF8_toList]
      rfl
    rw [fits, suits, bne, bne, Bool.beq_eq_decide_eq, Bool.beq_eq_decide_eq, ← none]
    simp only [Text.toUTF8_toList_inj]

end Segment

namespace Route

def suits (r : Route) (segments : List String) : Bool :=
  r.pattern.length == segments.length && (r.pattern.zip segments).all fun (p, s) => p.suits s

theorem fits_texts (r : Route) (segments : List String) :
    r.fits (segments.map (·.toUTF8.toList)) = r.suits segments := by
  rw [fits, suits, List.length_map, List.zip_map_right, List.all_map]
  congr 2
  funext ⟨p, s⟩
  exact p.fits_text s

end Route

theorem findRoute_texts (routes : List Route) (segments : List String) :
    findRoute routes (segments.map (·.toUTF8.toList)) =
      ((routes.filter (·.suits segments)).find? (·.isFixed)).or
        (routes.filter (·.suits segments)).head? := by
  simp only [findRoute, Route.fits_texts]

section Serve

variable {routes : List Route} {route : Route} {segments : List String} {method : String}

theorem serve_of_endpoint (given : segments ≠ []) (plain : ∀ s ∈ segments, PlainSegment s)
    (found : findRoute routes (segments.map (·.toUTF8.toList)) = some route) {endpoint : Endpoint}
    (known : route.endpoint? method = some endpoint) (body : List UInt8) :
    serve routes ⟨method, ⟨Uri.ofSegments segments, []⟩, body⟩ =
      endpoint.run (route.freeSegment (segments.map (·.toUTF8.toList)))
        ⟨method, ⟨Uri.ofSegments segments, []⟩, body⟩ := by
  simp only [serve, Uri.segments?_ofSegments given plain, found, known]

theorem serve_of_method (given : segments ≠ []) (plain : ∀ s ∈ segments, PlainSegment s)
    (found : findRoute routes (segments.map (·.toUTF8.toList)) = some route)
    (unknown : route.endpoint? method = none) (whole : method ≠ "HEAD") (body : List UInt8) :
    serve routes ⟨method, ⟨Uri.ofSegments segments, []⟩, body⟩ =
      return ⟨405, .none, some route.allowed⟩ := by
  simp only [serve, Uri.segments?_ofSegments given plain, found, unknown]

theorem serve_of_nowhere (given : segments ≠ []) (plain : ∀ s ∈ segments, PlainSegment s)
    (nowhere : findRoute routes (segments.map (·.toUTF8.toList)) = none) (body : List UInt8) :
    serve routes ⟨method, ⟨Uri.ofSegments segments, []⟩, body⟩ = return .empty 404 := by
  simp only [serve, Uri.segments?_ofSegments given plain, nowhere]

end Serve

end Http

end BlockVolumes
