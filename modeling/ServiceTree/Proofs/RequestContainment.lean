import Mathlib.Data.List.Basic
import ServiceTree.Proofs.Outcome
import ServiceTree.Proofs.PercentText

/-!
# Requests stay below their base

A request is sent to the base address with the segments of its path appended. Dots among them are left
out, but only dots that stand there openly: a double dot that appears when a tab or the end of a line is
left out does close the segment in front of it. One such segment can be the last one of the base, and no
other segment of the base is ever left.
-/

namespace ServiceTree

/-- A text with characters encoded holds a slash only where the text does. -/
theorem Percent.slash_of_encode {isEncoded : Char → Bool} {text : List Char}
    (h : '/' ∈ Percent.encode isEncoded text) : '/' ∈ text :=
  ((Percent.of_mem_encode h).resolve_right (by decide)).1

namespace UrlPath

/-- The names between the slashes of a text. -/
def namesIn (text : List Char) : List (List Char) :=
  (Text.pieces (· == '/') text).filter fun name => !name.isEmpty

/-- The names between the slashes of a path. -/
def names (path : UrlPath) : List (List Char) := namesIn path.write

/-- The names of two texts with a slash between them are those of both. -/
theorem namesIn_append (text rest : List Char) :
    namesIn (text ++ '/' :: rest) = namesIn text ++ namesIn rest := by
  rw [namesIn, Text.pieces, Text.piecesFrom_append (by rfl), List.filter_append]
  rfl

/-- An empty text has no names, and a text without slashes is its only name. -/
theorem namesIn_of_plain {text : List Char} (h : '/' ∉ text) :
    namesIn text = if text = [] then [] else [text] := by
  have hplain : ∀ c ∈ text, (c == '/') = false := fun c hc => by
    rw [beq_eq_false_iff_ne]
    exact fun hslash => h (hslash ▸ hc)
  rw [namesIn, Text.pieces, Text.piecesFrom_eq_singleton hplain]
  cases text <;> rfl

/-- The names of a path with segments are those of the segments. -/
theorem names_segments (parts : List (List Char)) :
    names (.segments parts) = parts.flatMap namesIn := by
  have hbehind (text : List Char) : namesIn ('/' :: text) = namesIn text := namesIn_append [] text
  induction parts with
  | nil => rfl
  | cons part rest ih =>
    rw [List.flatMap_cons, ← ih]
    change namesIn ('/' :: (part ++ write (.segments rest))) = _
    rw [hbehind]
    cases rest with
    | nil => simp [names, write, namesIn, Text.pieces, Text.piecesFrom]
    | cons next rest =>
      change namesIn (part ++ '/' :: (next ++ write (.segments rest))) =
        namesIn part ++ namesIn ('/' :: (next ++ write (.segments rest)))
      rw [namesIn_append, hbehind]

/-- Empty segments have no names. -/
theorem flatMap_namesIn_of_empty {parts : List (List Char)} (h : ∀ part ∈ parts, part = []) :
    parts.flatMap namesIn = [] := by
  rw [List.flatMap_eq_nil_iff]
  intro part hpart
  rw [h part hpart]
  rfl

/-- The parent of a path has segments of the path. -/
theorem parent_subset (parts : List (List Char)) : parent parts ⊆ parts := by
  rw [parent]
  split
  · exact List.Subset.refl _
  · exact List.dropLast_subset parts

/-- The parent of a path is that of its back behind its front. -/
theorem parent_append (front : List (List Char)) {back : List (List Char)} (h : back ≠ []) :
    parent (front ++ back) = front ++ parent back := by
  rw [parent, parent, List.getLast?_append_of_ne_nil _ h, List.dropLast_append_of_ne_nil h]
  split <;> rfl

/-- A segment that is a name and no drive, and so is left where a double dot follows. -/
def isPlainName (segment : List Char) : Bool := !segment.isEmpty && !isDrive segment

/-- The names of the parent are those of the path, without the last one if that is left. -/
theorem names_parent {parts : List (List Char)} (hparts : ∀ part ∈ parts, '/' ∉ part) :
    names (.segments (parent parts)) =
      if (parts.getLast?).any isPlainName then (names (.segments parts)).dropLast
      else names (.segments parts) := by
  rcases List.eq_nil_or_concat parts with rfl | ⟨before, last, rfl⟩
  · rfl
  rw [List.concat_eq_append] at hparts ⊢
  have hlast := namesIn_of_plain (hparts last (by simp))
  have hnames : names (.segments (before ++ [last])) = names (.segments before) ++ namesIn last := by
    rw [names_segments, names_segments, List.flatMap_append, List.flatMap_singleton]
  rw [parent_append _ (List.cons_ne_nil _ _), List.getLast?_concat, Option.any_some, isPlainName]
  cases hdrive : isDrive last with
  | true => simp [parent, hdrive]
  | false =>
    have hparent : parent [last] = [] := by simp [parent, hdrive]
    rw [hparent, List.append_nil, hnames, hlast]
    cases last with
    | nil => simp
    | cons c rest => simp

/-- A closing slash is put behind the segments of a path of the web, if there is none. -/
theorem closed_web (parts : List (List Char)) : closed .web (.segments parts) =
    .segments (if parts.getLast? = some [] then parts else parts ++ [[]]) := by
  have hpush (kept segments : List (List Char)) :
      segments.foldl (push .web) kept = kept ++ segments := by
    induction segments generalizing kept with
    | nil => simp
    | cons segment rest ih =>
      rw [List.foldl_cons, ih, push, if_neg (by simp), List.append_assoc, List.singleton_append]
  rw [closed, hpush, List.nil_append]

/-- A character that is in no segment, encoded, is in none when dots are followed. -/
theorem notMem_followDots {mark : Char} {kept segments : List (List Char)}
    (hkept : ∀ part ∈ kept, mark ∉ part)
    (hsegments : ∀ segment ∈ segments, mark ∉ Percent.encode Percent.inPath segment) :
    ∀ part ∈ followDots .web kept segments, mark ∉ part := by
  induction segments generalizing kept with
  | nil => exact hkept
  | cons segment rest ih =>
    rw [List.forall_mem_cons] at hsegments
    have hending : ∀ part ∈ (if rest.isEmpty then [[]] else [] : List (List Char)), mark ∉ part := by
      split <;> simp
    rw [followDots]
    split
    · have hparent : ∀ part ∈ parent kept, mark ∉ part :=
        fun part hpart => hkept part (parent_subset kept hpart)
      exact ih (List.forall_mem_append.mpr ⟨hparent, hending⟩) hsegments.2
    · split
      · exact ih (List.forall_mem_append.mpr ⟨hkept, hending⟩) hsegments.2
      · refine ih (List.forall_mem_append.mpr ⟨hkept, ?_⟩) hsegments.2
        rw [List.forall_mem_singleton, if_neg (by simp)]
        exact hsegments.1

/-- The segments of a path have no slashes. -/
theorem slash_of_readSegments {path : List Char} :
    ∀ part ∈ readSegments .web path, '/' ∉ part := by
  cases path with
  | nil => simp [readSegments]
  | cons c rest =>
    refine notMem_followDots (by simp) fun segment hsegment hslash => ?_
    cases (Text.mem_of_mem_pieces hsegment '/' (Percent.slash_of_encode hslash)).2

end UrlPath

namespace Url

variable {text : String} {url : Url}

/-- An address has the authority and the path that are read behind its scheme, and its query is encoded. -/
theorem parts_of_read? (h : read? text = some url) :
    (∃ body isEnd, readBody url.scheme body isEnd = some (url.authority, url.path)) ∧
      ∃ query : Option (List Char),
        url.query = query.map (Percent.encode (Percent.inQuery (kindOf url.scheme != .other))) := by
  unfold read? at h
  dsimp only at h
  split at h
  · cases h
  · obtain ⟨behind, _, h⟩ := Option.bind_eq_some_iff.mp h
    obtain ⟨⟨authority, path⟩, hbody, h⟩ := Option.bind_eq_some_iff.mp h
    cases h
    exact ⟨⟨_, _, hbody⟩, _, rfl⟩

/-- The path of an address of the web is read segment by segment. -/
theorem path_of_read? (h : read? text = some url) (hweb : url.kind = .web) :
    ∃ behind, url.path = .segments (UrlPath.readSegments .web behind) := by
  obtain ⟨⟨body, isEnd, hbody⟩, _⟩ := parts_of_read? h
  rw [kind] at hweb
  unfold readBody at hbody
  simp only [hweb] at hbody
  obtain ⟨⟨authority, behind⟩, _, hbody⟩ := Option.bind_eq_some_iff.mp hbody
  exact ⟨_, (Prod.mk.inj (Option.some.inj hbody)).2.symm⟩

end Url

namespace Endpoint

variable {endpoint : Endpoint} {start front path rest : List (List Char)}

/-- The segments that are appended for a request path. -/
def appended (path : String) : List (List Char) :=
  (requestSegments path).filter fun segment => !isDots segment

/-- Whether a segment is a double dot where characters are left out. -/
def goesUp (segment : List Char) : Bool := (segment.filter fun c => !Url.isDropped c) == ['.', '.']

/-- What a segment leaves at the end of a path: nothing where it turns into dots. -/
def placed (segment : List Char) : List Char :=
  let kept := segment.filter fun c => !Url.isDropped c
  if isDots kept then [] else Percent.encode (Percent.inSegment true) kept

/-- A segment is put behind the path, or behind the parent of the path. -/
theorem appendSegment_web (path : List (List Char)) (segment : List Char) :
    appendSegment .web path segment =
      (if goesUp segment then UrlPath.parent (opened path) else opened path) ++ [placed segment] := by
  unfold appendSegment goesUp placed isDots
  dsimp only
  split
  case isTrue hdouble => simp [hdouble]
  case isFalse hdouble =>
    split
    case isTrue hsingle => simp [hsingle]
    case isFalse hsingle =>
      have hweb : (SchemeKind.web != .other) = true := rfl
      simp [hdouble, hsingle, hweb, UrlPath.push]

/-- A path that goes on behind a front as another path does, up to empty segments between them. -/
def Behind (front path rest : List (List Char)) : Prop :=
  rest ≠ [] ∧ ∃ blank, (∀ segment ∈ blank, segment = []) ∧ path = front ++ blank ++ rest

/-- Two paths with one more segment go on alike, whatever is empty between front and back. -/
theorem Behind.concat {blank back : List (List Char)} (hblank : ∀ segment ∈ blank, segment = [])
    (segment : List Char) : Behind front (front ++ blank ++ back ++ [segment]) (back ++ [segment]) :=
  ⟨by simp, blank, hblank, by simp⟩

/-- A path of more than one segment is open as it stands. -/
theorem opened_append (hfront : front ≠ []) (hrest : rest ≠ []) : opened (front ++ rest) = front ++ rest := by
  rw [opened, if_neg]
  intro hblank
  have hlength := congrArg List.length hblank
  have hfront := List.length_pos_iff.mpr hfront
  have hrest := List.length_pos_iff.mpr hrest
  rw [List.length_append, List.length_singleton] at hlength
  omega

/-- Appending a segment keeps what stands in front. -/
theorem Behind.appendSegment (h : Behind front path rest) (segment : List Char) :
    Behind front (appendSegment .web path segment) (appendSegment .web rest segment) := by
  obtain ⟨hrest, blank, hblank, rfl⟩ := h
  rw [appendSegment_web, appendSegment_web]
  by_cases hnone : front ++ blank = []
  · obtain ⟨rfl, rfl⟩ := List.append_eq_nil_iff.mp hnone
    exact .concat hblank _
  rw [opened_append hnone hrest]
  by_cases hempty : rest = [[]]
  · -- the empty segment gives way to the next one only where it stands alone
    subst hempty
    rw [show opened [[]] = [] from if_pos rfl, UrlPath.parent_append _ hrest]
    split
    · exact .concat hblank _
    · have hblank : ∀ segment ∈ blank ++ [[]], segment = [] :=
        List.forall_mem_append.mpr ⟨hblank, by simp⟩
      have hnext : Behind front (front ++ (blank ++ [[]]) ++ [] ++ [placed segment])
          ([] ++ [placed segment]) := .concat hblank _
      simpa using hnext
  · rw [opened, if_neg hempty, UrlPath.parent_append _ hrest]
    split
    · exact .concat hblank _
    · exact .concat hblank _

/-- Appending segments keeps what stands in front. -/
theorem Behind.foldl (h : Behind front path rest) (segments : List (List Char)) :
    Behind front (segments.foldl (Endpoint.appendSegment .web) path)
      (segments.foldl (Endpoint.appendSegment .web) rest) := by
  induction segments generalizing path rest with
  | nil => exact h
  | cons segment segments ih => exact ih (h.appendSegment segment)

/-- The names of a path behind a front are those of the front and those behind it. -/
theorem Behind.names (h : Behind front path rest) :
    (UrlPath.segments path).names = (UrlPath.segments front).names ++ (UrlPath.segments rest).names := by
  obtain ⟨_, blank, hblank, rfl⟩ := h
  rw [UrlPath.names_segments, UrlPath.names_segments, UrlPath.names_segments, List.flatMap_append,
    List.flatMap_append, UrlPath.flatMap_namesIn_of_empty hblank, List.append_nil]

/-- A first segment keeps the whole path, or leaves its last segment. -/
theorem behind_of_first (start : List (List Char)) (segment : List Char) :
    Behind (if goesUp segment then UrlPath.parent (opened start) else opened start)
      (appendSegment .web start segment) (appendSegment .web [[]] segment) := by
  have hnone : (if goesUp segment then UrlPath.parent (opened [[]]) else opened [[]]) = [] := by
    split <;> rfl
  rw [appendSegment_web, appendSegment_web, hnone]
  exact ⟨by simp, [], by simp, by simp⟩

/-- Opening changes a path only if it is one empty segment. -/
theorem opened_eq (start : List (List Char)) : opened start = start ∨ start = [[]] ∧ opened start = [] := by
  rw [opened]
  split
  case isTrue h => exact .inr ⟨h, rfl⟩
  case isFalse => exact .inl rfl

/-- Opening a path leaves no segment but an empty one. -/
theorem opened_subset (start : List (List Char)) : opened start ⊆ start := by
  rcases opened_eq start with h | ⟨rfl, h⟩
  · rw [h]
    exact List.Subset.refl _
  · rw [h]
    exact List.nil_subset _

/-- Opening a path leaves its names. -/
theorem names_opened (start : List (List Char)) :
    (UrlPath.segments (opened start)).names = (UrlPath.segments start).names := by
  rcases opened_eq start with h | ⟨rfl, h⟩
  · rw [h]
  · rw [h]
    rfl

/-- The names of the parent of an opened path are those of the path, without the last one if that is
left. -/
theorem names_parent_opened {start : List (List Char)} (hstart : ∀ part ∈ start, '/' ∉ part) :
    (UrlPath.segments (UrlPath.parent (opened start))).names =
      if (start.getLast?).any UrlPath.isPlainName then (UrlPath.segments start).names.dropLast
      else (UrlPath.segments start).names := by
  rcases opened_eq start with h | ⟨rfl, h⟩
  · rw [h, UrlPath.names_parent hstart]
  · rw [h]
    rfl

/-- The names of a path to which segments are appended are those of the path, without the last one if the
first segment leaves it, and those of the segments. -/
theorem names_foldl {start : List (List Char)} (hstart : ∀ part ∈ start, '/' ∉ part)
    (segments : List (List Char)) :
    (UrlPath.segments (segments.foldl (appendSegment .web) start)).names =
      (if (segments.head?).any goesUp && (start.getLast?).any UrlPath.isPlainName
        then (UrlPath.segments start).names.dropLast else (UrlPath.segments start).names) ++
      (UrlPath.segments (segments.foldl (appendSegment .web) [[]])).names := by
  cases segments with
  | nil => simp [UrlPath.names_segments, UrlPath.namesIn_of_plain]
  | cons segment rest =>
    rw [List.foldl_cons, List.foldl_cons, ((behind_of_first start segment).foldl rest).names]
    congr 1
    rw [List.head?_cons, Option.any_some]
    cases goesUp segment with
    | false => exact names_opened start
    | true => rw [if_pos rfl, names_parent_opened hstart, Bool.true_and]

/-- The names of a path do not depend on a closing slash. -/
theorem names_withoutClosing (parts : List (List Char)) :
    (UrlPath.segments (withoutClosing parts)).names = (UrlPath.segments parts).names := by
  rw [withoutClosing]
  split
  case isTrue h =>
    rw [Bool.and_eq_true, decide_eq_true_eq, List.getLast?_eq_some_iff] at h
    obtain ⟨⟨before, rfl⟩, _⟩ := h
    rw [List.dropLast_concat, UrlPath.names_segments, UrlPath.names_segments, List.flatMap_append]
    simp [UrlPath.namesIn_of_plain]
  case isFalse => rfl

/-- Leaving out a closing slash leaves no segment but empty ones. -/
theorem withoutClosing_subset (parts : List (List Char)) : withoutClosing parts ⊆ parts := by
  rw [withoutClosing]
  split
  · exact List.dropLast_subset parts
  · exact List.Subset.refl _

/-- The last segment of an endpoint in front of its closing slash. -/
def lastSegment? (endpoint : Endpoint) : Option (List Char) :=
  match endpoint.base.path with
  | .text _ => none
  | .segments parts => (withoutClosing parts).getLast?

/-- Whether a request path leaves the last segment of its endpoint: the first segment that is not made of
dots turns into a double one, and the last segment of the endpoint is a name and no drive. -/
def leavesBase (endpoint : Endpoint) (path : String) : Bool :=
  ((appended path).head?).any goesUp && (endpoint.lastSegment?).any UrlPath.isPlainName

/-- The path of a request on its own. -/
def ownPath (path : String) : UrlPath := .segments ((appended path).foldl (appendSegment .web) [[]])

/-- A path that ends with a segment that can be left has names. -/
theorem names_ne_nil_of_isPlainName {parts : List (List Char)} (hparts : ∀ part ∈ parts, '/' ∉ part)
    (h : ((withoutClosing parts).getLast?).any UrlPath.isPlainName = true) :
    (UrlPath.segments parts).names ≠ [] := by
  obtain ⟨last, hlast, hname⟩ := Option.any_eq_true _ _ |>.mp h
  have hmem : last ∈ withoutClosing parts := List.mem_of_getLast? hlast
  have hnames : UrlPath.namesIn last = [last] := by
    rw [UrlPath.namesIn_of_plain (hparts last (withoutClosing_subset parts hmem)), if_neg]
    rintro rfl
    cases hname
  rw [← names_withoutClosing, UrlPath.names_segments]
  exact List.ne_nil_of_mem (List.mem_flatMap.mpr ⟨last, hmem, hnames ▸ List.mem_singleton_self last⟩)

/-- The path of a request has the names of its endpoint in front, without the last one if the request
path leaves it, and behind them those of the request path. -/
theorem extendPath_names {parts : List (List Char)} (hpath : endpoint.base.path = .segments parts)
    (hparts : ∀ part ∈ parts, '/' ∉ part) (hweb : endpoint.base.kind = .web) (path : String) :
    ∃ extended, endpoint.extendPath path = .ok extended ∧
      extended.names = (if endpoint.leavesBase path then endpoint.base.path.names.dropLast
        else endpoint.base.path.names) ++ (ownPath path).names := by
  have hleaves : endpoint.leavesBase path = (((appended path).head?).any goesUp &&
      ((withoutClosing parts).getLast?).any UrlPath.isPlainName) := by
    rw [leavesBase, lastSegment?, hpath]
  unfold extendPath
  dsimp only
  split
  case isTrue hnone =>
    have happended : appended path = [] := by rw [appended, List.isEmpty_iff.mp hnone, List.filter_nil]
    refine ⟨_, rfl, ?_⟩
    rw [hleaves, ownPath, happended, UrlPath.names_segments]
    simp [UrlPath.namesIn_of_plain]
  case isFalse =>
    rw [hpath]
    refine ⟨_, rfl, ?_⟩
    rw [hweb, hleaves, ownPath, ← names_withoutClosing parts]
    exact names_foldl (fun part hpart => hparts part (withoutClosing_subset parts hpart)) (appended path)

/-- A segment that is appended is a name and not made of dots, and stays as it is where the request path has
no characters that are left out. -/
theorem of_mem_appended {path : String} {segment : List Char} (h : segment ∈ appended path) :
    segment ≠ [] ∧ isDots segment = false ∧ ((∀ c ∈ path.toList, Url.isDropped c = false) →
      (segment.filter fun c => !Url.isDropped c) = segment) := by
  obtain ⟨hrequest, hdots⟩ := List.mem_filter.mp h
  obtain ⟨hpiece, hname⟩ := List.mem_filter.mp hrequest
  refine ⟨by simpa using hname, by simpa using hdots, fun hplain => ?_⟩
  exact List.filter_eq_self.mpr fun c hc => by simp [hplain c (Text.mem_of_mem_pieces hpiece c hc).1]

/-- A segment from which nothing is left out turns into a double dot only if it is one. -/
theorem goesUp_of_kept {segment : List Char} (hkept : (segment.filter fun c => !Url.isDropped c) = segment)
    (hdots : isDots segment = false) : goesUp segment = false := by
  rw [goesUp, hkept]
  rw [isDots, Bool.or_eq_false_iff] at hdots
  exact hdots.2

/-- Without characters that are left out, no segment other than dots turns into a double dot. -/
theorem leavesBase_of_plain {path : String} (h : ∀ c ∈ path.toList, Url.isDropped c = false) :
    endpoint.leavesBase path = false := by
  rw [leavesBase]
  cases hfirst : (appended path).head? with
  | none => rfl
  | some segment =>
    obtain ⟨_, hdots, hkept⟩ := of_mem_appended (List.mem_of_head? hfirst)
    rw [Option.any_some, goesUp_of_kept (hkept h) hdots, Bool.false_and]

/-- The endpoint of an address of the web has the segments of its path, closed by an empty one. -/
theorem ofUrl_segments {parts : List (List Char)} {url : Url} (hpath : url.path = .segments parts)
    (hweb : url.kind = .web) : (ofUrl url).base.path =
      .segments (if parts.getLast? = some [] then parts else parts ++ [[]]) := by
  rw [ofUrl, hpath, hweb, UrlPath.closed_web]

/-- What holds of the empty segment and of all that are read holds of the segments of an endpoint. -/
theorem ofUrl_forall {P : List Char → Prop} (hblank : P [])
    (hsegments : ∀ behind, ∀ part ∈ UrlPath.readSegments .web behind, P part) {text : String} {url : Url}
    (hread : Url.read? text = some url) (hweb : url.kind = .web) :
    ∃ parts, (ofUrl url).base.path = .segments parts ∧ ∀ part ∈ parts, P part := by
  obtain ⟨behind, hpath⟩ := Url.path_of_read? hread hweb
  refine ⟨_, ofUrl_segments hpath hweb, ?_⟩
  split
  · exact hsegments behind
  · exact List.forall_mem_append.mpr ⟨hsegments behind, List.forall_mem_singleton.mpr hblank⟩

/-- The path of the endpoint of an address of the web has segments, and no segment has a slash. -/
theorem ofUrl_path {text : String} {url : Url} (hread : Url.read? text = some url)
    (hweb : url.kind = .web) :
    ∃ parts, (ofUrl url).base.path = .segments parts ∧ ∀ part ∈ parts, '/' ∉ part :=
  ofUrl_forall List.not_mem_nil (fun _ => UrlPath.slash_of_readSegments) hread hweb

end Endpoint

/-- A request keeps the scheme, user, host and port of the base and the names of its path, unless the request
path leaves the last of them, which takes characters that addresses leave out. -/
theorem request_contained {text : String} {url : Url} (hread : Url.read? text = some url)
    (hweb : url.kind = .web) (path : String) (query : Fields String) :
    ∃ result, (Endpoint.ofUrl url).urlFor path query = .ok result ∧
      let base := (Endpoint.ofUrl url).base
      let leaves := (Endpoint.ofUrl url).leavesBase path
      result.scheme = base.scheme ∧ result.authority = base.authority ∧
      result.path.names = (if leaves then base.path.names.dropLast else base.path.names) ++
        (Endpoint.ownPath path).names ∧
      (base.path.names <+: result.path.names ↔
        (leaves = true → (Endpoint.ownPath path).names.head? = base.path.names.getLast?)) ∧
      ((∀ c ∈ path.toList, Url.isDropped c = false) → leaves = false) := by
  obtain ⟨parts, hpath, hparts⟩ := Endpoint.ofUrl_path hread hweb
  obtain ⟨extended, hextended, hnames⟩ := Endpoint.extendPath_names hpath hparts hweb path
  refine ⟨_, Outcome.bind_eq_ok.mpr ⟨_, hextended, rfl⟩, rfl, rfl, hnames, ?_,
    Endpoint.leavesBase_of_plain⟩
  dsimp only
  rw [hnames]
  cases hleaves : (Endpoint.ofUrl url).leavesBase path with
  | false => simp
  | true =>
    have hne : (Endpoint.ofUrl url).base.path.names ≠ [] := by
      rw [Endpoint.leavesBase, Bool.and_eq_true, Endpoint.lastSegment?, hpath] at hleaves
      rw [hpath]
      exact Endpoint.names_ne_nil_of_isPlainName hparts hleaves.2
    obtain ⟨before, last, hsplit⟩ := (List.eq_nil_or_concat _).resolve_left hne
    rw [List.concat_eq_append] at hsplit
    rw [if_pos rfl, hsplit, List.dropLast_concat, List.getLast?_concat, List.prefix_append_right_inj,
      List.singleton_prefix_iff_head?_eq_some]
    simp

/-- An address with a path of two names. -/
def versionedUrl : Url where
  scheme := "http".toList
  authority := some "example.com".toList
  isSetOff := false
  path := .segments ["api".toList, "v1".toList, []]
  query := none
  fragment := none

/-- The address is read from its text. -/
theorem versionedUrl_read : Url.read? "http://example.com/api/v1/" = some versionedUrl := by
  decide +kernel

/-- Open dots do not lead a request out of its base. -/
theorem versionedUrl_contains : Url.read? "http://example.com/api/v1/" = some versionedUrl ∧
    versionedUrl.kind = .web ∧
      ∃ result, (Endpoint.ofUrl versionedUrl).urlFor "../books/7" [("page", "2")] = .ok result ∧
        (Endpoint.ofUrl versionedUrl).base.path.names <+: result.path.names := by
  have hweb : versionedUrl.kind = .web := by decide
  obtain ⟨result, hresult, _, _, _, hprefix, hplain⟩ :=
    request_contained versionedUrl_read hweb "../books/7" [("page", "2")]
  have hvisible : ("../books/7".toList.all fun c => Url.isDropped c == false) = true := by decide
  have hstays := hplain fun c hc => beq_iff_eq.mp (List.all_eq_true.mp hvisible c hc)
  refine ⟨versionedUrl_read, hweb, result, hresult, hprefix.mpr fun hleaves => ?_⟩
  rw [hstays] at hleaves
  cases hleaves

/-- Dots with a tab between them lead a request out of its base. -/
theorem versionedUrl_left : Url.read? "http://example.com/api/v1/" = some versionedUrl ∧
    ∃ result, (Endpoint.ofUrl versionedUrl).urlFor ".\t./admin" [] = .ok result ∧
      result.write = "http://example.com/api//admin" ∧
        ¬ (Endpoint.ofUrl versionedUrl).base.path.names <+: result.path.names :=
  ⟨versionedUrl_read, _, rfl, by decide +kernel, by decide +kernel⟩

end ServiceTree
