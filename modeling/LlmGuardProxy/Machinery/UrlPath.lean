import LlmGuardProxy.Machinery.Bytes
import Mathlib.Algebra.Order.BigOperators.Group.List

/-!
# Machinery/UrlPath — paths of special-scheme URLs

How the path of an `http` or `https` URL is read: cut at `/` and `\`, percent-encode, and walk the
segments over a stack on which a double dot cancels its parent.

* `walk_keeps_iff` — the walk never cancels a segment of the stack it starts on exactly when no
  initial stretch has more double dots than ordinary segments.
* `PathEncodeSet.parsePath_clean` — a parsed path holds no separator, no dot segment and nothing
  left to encode, so that its serialization is cut into the same segments again.
-/

namespace Machinery

/-! ## Segments -/

/-- `/` and `\` both end a segment. -/
def isPathSeparator (b : UInt8) : Bool := b == 0x2F || b == 0x5C

/-- The three spellings of a dot. -/
def dotSpellings : List Bytes := [utf8 ".", utf8 "%2e", utf8 "%2E"]

/-- A single-dot segment. -/
def isSingleDot (segment : Bytes) : Bool := dotSpellings.contains segment

/-- A double-dot segment: two dots in any of their spellings. -/
def isDoubleDot (segment : Bytes) : Bool :=
  (dotSpellings.flatMap fun d => dotSpellings.map (d ++ ·)).contains segment

/-- The segments of a path, behind its leading separator. -/
def pathSegments (path : Bytes) : List Bytes := path.splitOnP isPathSeparator

theorem pathSegments_append (xs ys : Bytes) {b : UInt8} (hb : isPathSeparator b = true) :
    pathSegments (xs ++ b :: ys) = pathSegments xs ++ pathSegments ys :=
  List.splitOnP_append_cons xs ys hb

theorem pathSegments_eq_singleton {xs : Bytes} (h : ∀ b ∈ xs, isPathSeparator b = false) :
    pathSegments xs = [xs] := List.splitOnP_eq_singleton h

/-- No segment holds a separator. -/
theorem isPathSeparator_of_mem {path segment : Bytes} (h : segment ∈ pathSegments path) :
    ∀ b ∈ segment, isPathSeparator b = false := forall_mem_splitOnP h

/-! ## The walk -/

/-- One segment of the walk: a double dot cancels its parent, a single dot does nothing. -/
def walk (stack : List Bytes) (segment : Bytes) : List Bytes :=
  if isDoubleDot segment then stack.dropLast
  else if isSingleDot segment then stack
  else stack ++ [segment]

/-- A segment the walk pushes. -/
def isOrdinary (segment : Bytes) : Bool := !isDoubleDot segment && !isSingleDot segment

/-- An initial stretch of the segments **climbs**: it has more double dots than ordinary
segments. -/
def Climbs (segments : List Bytes) : Prop :=
  ∃ n, (segments.take n).countP isOrdinary < (segments.take n).countP isDoubleDot

/-- Without a double dot nothing climbs. -/
theorem Climbs.exists_isDoubleDot {segments : List Bytes} (h : Climbs segments) :
    ∃ s ∈ segments, isDoubleDot s = true := by
  obtain ⟨n, hn⟩ := h
  obtain ⟨s, hs, hd⟩ := List.countP_pos_iff.mp (Nat.zero_lt_of_lt hn)
  exact ⟨s, List.mem_of_mem_take hs, hd⟩

/-- Ordinary segments are pushed as they are. -/
theorem foldl_walk_ordinary {segments : List Bytes} (stack : List Bytes)
    (h : ∀ s ∈ segments, isOrdinary s = true) : segments.foldl walk stack = stack ++ segments := by
  induction segments generalizing stack with
  | nil => simp
  | cons s rest ih =>
    have hs : isDoubleDot s = false ∧ isSingleDot s = false := by
      simpa [isOrdinary] using h s (by simp)
    rw [List.foldl_cons, ih _ (fun x hx => h x (by simp [hx]))]
    simp [walk, hs]

/-- The walk over a stack with `above` on top of `base`. -/
theorem walk_keeps_aux {base : List Bytes} (hne : base ≠ []) (segments above : List Bytes) :
    (∀ n, base <+: (segments.take n).foldl walk (base ++ above)) ↔
      ∀ n, (segments.take n).countP isDoubleDot
        ≤ (segments.take n).countP isOrdinary + above.length := by
  induction segments generalizing above with
  | nil => simp
  | cons s rest ih =>
    have hsplit : ∀ p : ℕ → Prop, p 0 → ((∀ n, p n) ↔ ∀ n, p (n + 1)) := fun p h0 =>
      ⟨fun h n => h (n + 1), fun h n => by cases n with
        | zero => exact h0
        | succ n => exact h n⟩
    rw [hsplit _ (by simp), hsplit (fun n => ((s :: rest).take n).countP isDoubleDot ≤ _) (by simp)]
    by_cases hd : isDoubleDot s = true
    · have ho : isOrdinary s = false := by simp [isOrdinary, hd]
      rcases List.eq_nil_or_concat above with rfl | ⟨above, top, rfl⟩
      · refine iff_of_false (fun h => ?_) (fun h => ?_)
        · have hpre := (h 0).length_le
          have hpos := List.length_pos_iff.mpr hne
          simp only [List.append_nil, List.take_succ_cons, List.take_zero, List.foldl_cons, walk,
            hd, if_true, List.foldl_nil, List.length_dropLast] at hpre
          omega
        · simpa [hd, ho] using h 0
      · rw [List.concat_eq_append]
        have hwalk : walk (base ++ (above ++ [top])) s = base ++ above := by
          simp [walk, hd, ← List.append_assoc]
        simp only [List.take_succ_cons, List.foldl_cons, hwalk, ih above, List.countP_cons, hd, ho,
          List.length_append, List.length_singleton]
        refine forall_congr' fun n => ?_
        simp only [if_true, Bool.false_eq_true, if_false]
        omega
    · by_cases hs : isSingleDot s = true
      · have ho : isOrdinary s = false := by simp [isOrdinary, hs]
        have hwalk : walk (base ++ above) s = base ++ above := by simp [walk, hd, hs]
        simp only [List.take_succ_cons, List.foldl_cons, hwalk, ih above, List.countP_cons, hd, ho,
          Bool.false_eq_true, if_false, Nat.add_zero]
      · have ho : isOrdinary s = true := by simp [isOrdinary, hs, hd]
        have hwalk : walk (base ++ above) s = base ++ (above ++ [s]) := by simp [walk, hd, hs]
        simp only [List.take_succ_cons, List.foldl_cons, hwalk, ih (above ++ [s]), List.countP_cons,
          hd, ho, List.length_append, List.length_singleton]
        refine forall_congr' fun n => ?_
        simp only [if_true, Bool.false_eq_true, if_false]
        omega

/-- **The walk keeps its base exactly when nothing climbs.** -/
theorem walk_keeps_iff {base : List Bytes} (hne : base ≠ []) (segments : List Bytes) :
    (∀ n, base <+: (segments.take n).foldl walk base) ↔ ¬ Climbs segments := by
  have h := walk_keeps_aux hne segments []
  simp only [List.append_nil, List.length_nil, Nat.add_zero] at h
  rw [h, Climbs, not_exists]
  exact forall_congr' fun n => Nat.not_lt.symm

/-! ## Percent-encoding -/

/-- The bytes a URL parser percent-encodes in a path.  Which they are has changed between editions
of the standard; no edition encodes a letter, a digit, a dot or the percent sign, and every edition
encodes the two bytes that end a path. -/
structure PathEncodeSet where
  encodes : UInt8 → Bool
  alphanumeric : ∀ b, isAsciiAlphanumeric b = true → encodes b = false
  percent : encodes 0x25 = false
  dot : encodes 0x2E = false
  question : encodes 0x3F = true
  hash : encodes 0x23 = true

namespace PathEncodeSet

variable (set : PathEncodeSet)

/-- A byte as the path writes it. -/
def encodeByte (b : UInt8) : Bytes := if set.encodes b then percentEscape b else [b]

/-- A segment as the path writes it. -/
def encode (segment : Bytes) : Bytes := segment.flatMap set.encodeByte

@[simp] theorem encode_nil : set.encode [] = [] := rfl

@[simp] theorem encode_cons (b : UInt8) (segment : Bytes) :
    set.encode (b :: segment) = set.encodeByte b ++ set.encode segment := rfl

theorem encode_append (xs ys : Bytes) : set.encode (xs ++ ys) = set.encode xs ++ set.encode ys :=
  List.flatMap_append

/-- What the encoder leaves alone it copies. -/
theorem encode_eq_self {segment : Bytes} (h : ∀ b ∈ segment, set.encodes b = false) :
    set.encode segment = segment := by
  induction segment with
  | nil => rfl
  | cons b rest ih =>
    rw [encode_cons, encodeByte, h b (by simp), ih fun c hc => h c (by simp [hc])]
    rfl

/-- An encoded byte was copied, or belongs to an escape. -/
theorem mem_encode {segment : Bytes} {c : UInt8} (h : c ∈ set.encode segment) :
    (c ∈ segment ∧ set.encodes c = false) ∨ c = 0x25 ∨ isAsciiAlphanumeric c = true := by
  obtain ⟨b, hb, hc⟩ := List.mem_flatMap.mp h
  rw [encodeByte] at hc
  split at hc
  case isTrue => exact Or.inr (percentEscape_alphanumeric b c hc)
  case isFalse he =>
    rw [List.mem_singleton.mp hc]
    exact Or.inl ⟨hb, by simpa using he⟩

/-- **An encoded segment is encoded as itself.** -/
theorem encode_encode (segment : Bytes) : set.encode (set.encode segment) = set.encode segment := by
  refine set.encode_eq_self fun c hc => ?_
  rcases set.mem_encode hc with ⟨-, h⟩ | rfl | h
  · exact h
  · exact set.percent
  · exact set.alphanumeric c h

/-- No letter, digit or percent sign separates segments. -/
theorem isPathSeparator_of_alphanumeric :
    ∀ b : UInt8, b = 0x25 ∨ isAsciiAlphanumeric b = true → isPathSeparator b = false :=
  forall_byte (p := fun b => b = 0x25 ∨ isAsciiAlphanumeric b = true → isPathSeparator b = false)
    (by decide +kernel)

/-- Encoding adds no separator. -/
theorem isPathSeparator_of_mem_encode {segment : Bytes}
    (h : ∀ b ∈ segment, isPathSeparator b = false) :
    ∀ b ∈ set.encode segment, isPathSeparator b = false := by
  intro b hb
  rcases set.mem_encode hb with ⟨hb, -⟩ | hb
  · exact h b hb
  · exact isPathSeparator_of_alphanumeric b hb

/-- What an encoded segment starts with, other than a percent sign, was there before. -/
theorem append_of_encode {xs segment rest : Bytes} (hx : ∀ c ∈ xs, c ≠ 0x25)
    (h : set.encode segment = xs ++ rest) :
    ∃ segment', segment = xs ++ segment' ∧ set.encode segment' = rest := by
  induction xs generalizing segment with
  | nil => exact ⟨segment, rfl, h⟩
  | cons c xs ih =>
    cases segment with
    | nil => simp at h
    | cons b segment =>
      rw [encode_cons, encodeByte] at h
      split at h
      case isTrue =>
        exact absurd (List.cons.inj h).1.symm (hx c (by simp))
      case isFalse =>
        obtain ⟨rfl, htail⟩ := List.cons.inj h
        obtain ⟨segment', rfl, hrest⟩ := ih (fun c hc => hx c (by simp [hc])) htail
        exact ⟨segment', rfl, hrest⟩

/-- A dot in front of an encoded segment was there before. -/
theorem dot_of_encode {d : Bytes} (hd : d ∈ dotSpellings) {segment rest : Bytes}
    (h : set.encode segment = d ++ rest) :
    ∃ segment', segment = d ++ segment' ∧ set.encode segment' = rest := by
  have hescape : ∀ d ∈ dotSpellings, d = utf8 "." ∨
      (d = 0x25 :: d.tail ∧ d.length = 3 ∧ (d = utf8 "%2e" ∨ d = utf8 "%2E") ∧
        0x25 ∉ d.tail) := by decide
  rcases hescape d hd with rfl | ⟨hcons, hlen, hcase, htail⟩
  · exact set.append_of_encode (forall_mem_of_all (by decide)) h
  · cases segment with
    | nil =>
      rw [hcons] at h
      simp at h
    | cons b segment =>
      rw [encode_cons, encodeByte] at h
      split at h
      case isTrue hb =>
        have heq : percentEscape b = d := (List.append_inj h (by rw [hlen]; rfl)).1
        rcases hcase with rfl | rfl
        · exact absurd heq (eq_of_percentEscape b).2
        · rw [(eq_of_percentEscape b).1 heq, set.dot] at hb
          exact absurd hb (by decide)
      case isFalse =>
        rw [hcons] at h ⊢
        obtain ⟨rfl, hcopied⟩ := List.cons.inj h
        obtain ⟨segment', rfl, hrest⟩ := set.append_of_encode
          (fun c hc hpercent => htail (hpercent ▸ hc)) hcopied
        exact ⟨segment', rfl, hrest⟩

theorem encode_dot {d : Bytes} (hd : d ∈ dotSpellings) : set.encode d = d := by
  refine set.encode_eq_self fun b hb => ?_
  have hall : ∀ b ∈ dotSpellings.flatten, b = 0x25 ∨ b = 0x2E ∨ isAsciiAlphanumeric b = true :=
    forall_mem_of_all (by decide)
  rcases hall b (List.mem_flatten.mpr ⟨d, hd, hb⟩) with rfl | rfl | h
  · exact set.percent
  · exact set.dot
  · exact set.alphanumeric b h

/-- Encoding neither makes nor hides a single dot. -/
theorem isSingleDot_encode (segment : Bytes) :
    isSingleDot (set.encode segment) = isSingleDot segment := by
  rw [Bool.eq_iff_iff, isSingleDot, isSingleDot, List.contains_iff_mem, List.contains_iff_mem]
  refine ⟨fun h => ?_, fun h => by rwa [set.encode_dot h]⟩
  obtain ⟨tail, hseg, htail⟩ := set.dot_of_encode h (List.append_nil _).symm
  obtain rfl : tail = [] := by
    cases tail with
    | nil => rfl
    | cons b tail =>
      rw [encode_cons, encodeByte] at htail
      split at htail <;> simp [percentEscape] at htail
  rw [List.append_nil] at hseg
  rwa [hseg]

/-- Encoding neither makes nor hides a double dot. -/
theorem isDoubleDot_encode (segment : Bytes) :
    isDoubleDot (set.encode segment) = isDoubleDot segment := by
  rw [Bool.eq_iff_iff]
  simp only [isDoubleDot, List.contains_iff_mem, List.mem_flatMap, List.mem_map]
  constructor
  · rintro ⟨d, hd, e, he, h⟩
    obtain ⟨tail, rfl, htail⟩ := set.dot_of_encode hd h.symm
    have htail' : isSingleDot (set.encode tail) = true := by
      rw [htail, isSingleDot, List.contains_iff_mem]
      exact he
    rw [isSingleDot_encode, isSingleDot, List.contains_iff_mem] at htail'
    exact ⟨d, hd, tail, htail', rfl⟩
  · rintro ⟨d, hd, e, he, rfl⟩
    exact ⟨d, hd, e, he, by rw [encode_append, set.encode_dot hd, set.encode_dot he]⟩

theorem isOrdinary_encode (segment : Bytes) :
    isOrdinary (set.encode segment) = isOrdinary segment := by
  rw [isOrdinary, isOrdinary, isDoubleDot_encode, isSingleDot_encode]

/-- Encoding does not change whether segments climb. -/
theorem climbs_map_encode (segments : List Bytes) :
    Climbs (segments.map set.encode) ↔ Climbs segments := by
  refine exists_congr fun n => ?_
  rw [← List.map_take, List.countP_map, List.countP_map]
  have ho : isOrdinary ∘ set.encode = isOrdinary := funext set.isOrdinary_encode
  have hd : isDoubleDot ∘ set.encode = isDoubleDot := funext set.isDoubleDot_encode
  rw [ho, hd]

/-! ## Parsing a path -/

/-- The stack of a path once its segments are walked; a path that ends in a dot segment ends in an
empty segment. -/
def parsePath (path : Bytes) : List Bytes :=
  let segments := (pathSegments (path.drop 1)).map set.encode
  let stack := segments.foldl walk []
  if segments.getLast?.any (fun s => isSingleDot s || isDoubleDot s) then stack ++ [[]] else stack

/-- The stack once `n` segments of a path are walked. -/
def stackAfter (path : Bytes) (n : ℕ) : List Bytes :=
  (((pathSegments (path.drop 1)).map set.encode).take n).foldl walk []

/-- **No segment of `pre` is cancelled** when a path that starts with `pre` is parsed: past `pre`,
every stack of the walk extends the one `pre` leaves. -/
def Uncancelled (pre path : Bytes) : Prop :=
  let kept := (pathSegments (pre.drop 1)).length
  ∀ n, kept ≤ n → set.stackAfter pre kept <+: set.stackAfter path n

/-- A segment a parsed path can hold: no separator, nothing left to encode, no dot segment. -/
structure Clean (segment : Bytes) : Prop where
  noSeparator : ∀ b ∈ segment, isPathSeparator b = false
  encoded : set.encode segment = segment
  ordinary : isOrdinary segment = true

theorem clean_nil : set.Clean [] := ⟨by simp, rfl, by decide⟩

theorem walk_clean {stack : List Bytes} {segment : Bytes} (h : ∀ s ∈ stack, set.Clean s)
    (hsep : ∀ b ∈ segment, isPathSeparator b = false) (henc : set.encode segment = segment) :
    ∀ s ∈ walk stack segment, set.Clean s := by
  intro s hs
  rw [walk] at hs
  split at hs
  case isTrue => exact h s (List.mem_of_mem_dropLast hs)
  case isFalse hd =>
    split at hs
    case isTrue => exact h s hs
    case isFalse hsd =>
      rcases List.mem_append.mp hs with hs | hs
      · exact h s hs
      · rw [List.mem_singleton.mp hs]
        exact ⟨hsep, henc, by simp [isOrdinary, hd, hsd]⟩

/-- **A parsed path holds only clean segments.** -/
theorem parsePath_clean (path : Bytes) : ∀ s ∈ set.parsePath path, set.Clean s := by
  have hsegs : ∀ s ∈ (pathSegments (path.drop 1)).map set.encode,
      (∀ b ∈ s, isPathSeparator b = false) ∧ set.encode s = s := by
    intro s hs
    obtain ⟨raw, hraw, rfl⟩ := List.mem_map.mp hs
    exact ⟨set.isPathSeparator_of_mem_encode (isPathSeparator_of_mem hraw), set.encode_encode raw⟩
  have hfold : ∀ (segments stack : List Bytes),
      (∀ s ∈ segments, (∀ b ∈ s, isPathSeparator b = false) ∧ set.encode s = s) →
      (∀ s ∈ stack, set.Clean s) → ∀ s ∈ segments.foldl walk stack, set.Clean s := by
    intro segments
    induction segments with
    | nil => intro stack _ h; exact h
    | cons s rest ih =>
      intro stack hs h
      refine ih _ (fun x hx => hs x (by simp [hx])) ?_
      exact set.walk_clean h (hs s (by simp)).1 (hs s (by simp)).2
  have hstack := hfold _ [] hsegs (by simp)
  intro s hs
  rw [parsePath] at hs
  split at hs
  case isTrue =>
    rcases List.mem_append.mp hs with hs | hs
    · exact hstack s hs
    · rw [List.mem_singleton.mp hs]
      exact set.clean_nil
  case isFalse => exact hstack s hs

end PathEncodeSet

/-! ## Serializing a path -/

/-- The path serializer. -/
def serializePath (segments : List Bytes) : Bytes := segments.flatMap (0x2F :: ·)

@[simp] theorem serializePath_nil : serializePath [] = [] := rfl

@[simp] theorem serializePath_cons (s : Bytes) (segments : List Bytes) :
    serializePath (s :: segments) = 0x2F :: (s ++ serializePath segments) := rfl

theorem serializePath_append (xs ys : List Bytes) :
    serializePath (xs ++ ys) = serializePath xs ++ serializePath ys := List.flatMap_append

theorem serializePath_prefix {xs ys : List Bytes} (h : xs <+: ys) :
    serializePath xs <+: serializePath ys := by
  obtain ⟨zs, rfl⟩ := h
  rw [serializePath_append]
  exact List.prefix_append _ _

/-- The segments of a serialized path. -/
theorem pathSegments_serializePath {segments : List Bytes} (hne : segments ≠ [])
    (h : ∀ s ∈ segments, ∀ b ∈ s, isPathSeparator b = false) :
    pathSegments ((serializePath segments).drop 1) = segments := by
  induction segments with
  | nil => exact absurd rfl hne
  | cons s rest ih =>
    have hs := pathSegments_eq_singleton (h s (by simp))
    cases rest with
    | nil => simpa using hs
    | cons r rest =>
      have hrest := ih (by simp) fun x hx => h x (by simp [hx])
      simp only [serializePath_cons, List.drop_succ_cons, List.drop_zero] at hrest ⊢
      rw [pathSegments_append _ _ (by decide), hs, hrest]
      rfl

/-- The segments of a serialized path with more behind it. -/
theorem pathSegments_serializePath_append {segments : List Bytes} (hne : segments ≠ [])
    (h : ∀ s ∈ segments, ∀ b ∈ s, isPathSeparator b = false) (suffix : Bytes) :
    pathSegments ((serializePath segments ++ 0x2F :: suffix).drop 1)
      = segments ++ pathSegments suffix := by
  have hdrop : (serializePath segments ++ 0x2F :: suffix).drop 1
      = (serializePath segments).drop 1 ++ 0x2F :: suffix := by
    cases segments with
    | nil => exact absurd rfl hne
    | cons s rest => simp
  rw [hdrop, pathSegments_append _ _ (by decide), pathSegments_serializePath hne h]

/-! ## Parsing behind a clean prefix -/

namespace PathEncodeSet

variable (set : PathEncodeSet) {pre : List Bytes}

theorem Clean.encodes_eq_false {set : PathEncodeSet} {segment : Bytes} (h : set.Clean segment)
    {b : UInt8} (hb : b ∈ segment) : set.encodes b = false := by
  rw [← h.encoded] at hb
  rcases set.mem_encode hb with ⟨-, hb⟩ | rfl | hb
  · exact hb
  · exact set.percent
  · exact set.alphanumeric b hb

theorem map_encode_clean (h : ∀ s ∈ pre, set.Clean s) : pre.map set.encode = pre := by
  rw [List.map_congr_left fun s hs => (h s hs).encoded, List.map_id']

theorem foldl_walk_clean (h : ∀ s ∈ pre, set.Clean s) (stack : List Bytes) :
    pre.foldl walk stack = stack ++ pre := foldl_walk_ordinary stack fun s hs => (h s hs).ordinary

/-- A clean prefix is read back as it is. -/
theorem stackAfter_serializePath (hne : pre ≠ []) (h : ∀ s ∈ pre, set.Clean s) :
    set.stackAfter (serializePath pre) pre.length = pre := by
  rw [stackAfter, pathSegments_serializePath hne fun s hs => (h s hs).noSeparator,
    set.map_encode_clean h, List.take_length, set.foldl_walk_clean h, List.nil_append]

theorem parsePath_serializePath (hne : pre ≠ []) (h : ∀ s ∈ pre, set.Clean s) :
    set.parsePath (serializePath pre) = pre := by
  have hlast : pre.getLast?.any (fun s => isSingleDot s || isDoubleDot s) = false := by
    rw [List.getLast?_eq_some_getLast hne]
    have ho := (h _ (List.getLast_mem hne)).ordinary
    simp only [isOrdinary, Bool.and_eq_true, Bool.not_eq_true'] at ho
    simp [ho]
  simp only [parsePath, pathSegments_serializePath hne fun s hs => (h s hs).noSeparator,
    set.map_encode_clean h, hlast, set.foldl_walk_clean h, List.nil_append, Bool.false_eq_true,
    if_false]

/-- **Behind a clean prefix, nothing of it is cancelled exactly when the suffix does not climb.** -/
theorem uncancelled_iff (hne : pre ≠ []) (h : ∀ s ∈ pre, set.Clean s) (suffix : Bytes) :
    set.Uncancelled (serializePath pre) (serializePath pre ++ 0x2F :: suffix) ↔
      ¬ Climbs (pathSegments suffix) := by
  have hsep : ∀ s ∈ pre, ∀ b ∈ s, isPathSeparator b = false := fun s hs => (h s hs).noSeparator
  have hstack : ∀ n, set.stackAfter (serializePath pre ++ 0x2F :: suffix) (pre.length + n)
      = (((pathSegments suffix).map set.encode).take n).foldl walk pre := by
    intro n
    rw [stackAfter, pathSegments_serializePath_append hne hsep, List.map_append,
      set.map_encode_clean h, List.take_length_add_append, List.foldl_append,
      set.foldl_walk_clean h, List.nil_append]
  rw [Uncancelled, pathSegments_serializePath hne hsep, set.stackAfter_serializePath hne h,
    ← set.climbs_map_encode, ← walk_keeps_iff hne]
  refine ⟨fun hk n => ?_, fun hk n hn => ?_⟩
  · rw [← hstack]
    exact hk _ (Nat.le_add_right _ _)
  · obtain ⟨m, rfl⟩ := Nat.exists_eq_add_of_le hn
    rw [hstack]
    exact hk m

/-- With nothing behind it, a clean prefix is not cancelled. -/
theorem uncancelled_self (hne : pre ≠ []) (h : ∀ s ∈ pre, set.Clean s) :
    set.Uncancelled (serializePath pre) (serializePath pre) := by
  have hsep : ∀ s ∈ pre, ∀ b ∈ s, isPathSeparator b = false := fun s hs => (h s hs).noSeparator
  rw [Uncancelled, pathSegments_serializePath hne hsep]
  intro n hn
  have hstack : set.stackAfter (serializePath pre) n = set.stackAfter (serializePath pre) pre.length := by
    rw [stackAfter, stackAfter, pathSegments_serializePath hne hsep, set.map_encode_clean h,
      List.take_of_length_le hn, List.take_length]
  rw [hstack]

/-- A suffix that does not climb leaves the prefix in front of the parsed path. -/
theorem prefix_parsePath (hne : pre ≠ []) (h : ∀ s ∈ pre, set.Clean s) {suffix : Bytes}
    (hc : ¬ Climbs (pathSegments suffix)) :
    pre <+: set.parsePath (serializePath pre ++ 0x2F :: suffix) := by
  have hsep : ∀ s ∈ pre, ∀ b ∈ s, isPathSeparator b = false := fun s hs => (h s hs).noSeparator
  rw [← set.climbs_map_encode, ← walk_keeps_iff hne] at hc
  have hstack := hc ((pathSegments suffix).map set.encode).length
  rw [List.take_length] at hstack
  rw [parsePath, pathSegments_serializePath_append hne hsep, List.map_append,
    set.map_encode_clean h, List.foldl_append, set.foldl_walk_clean h, List.nil_append]
  split
  case isTrue => exact hstack.trans (List.prefix_append _ _)
  case isFalse => exact hstack

end PathEncodeSet

end Machinery
