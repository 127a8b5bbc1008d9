import ServiceTree.Proofs.RequestContainment

/-!
# What a request is addressed to

Path and query are encoded in different ways, and each encodes the signs that end it. So what stands
behind the host of an address is cut where it was put together, and decoding the two parts gives back the
segments and the entries that went in, behind those of the base.
-/

namespace ServiceTree

/-- Path and query of an address. -/
def Url.target (url : Url) : List Char := url.path.write ++ marked '?' url.query

/-- An address is cut at the sign behind which a part of it stands. -/
theorem Url.cut_marked {mark : Char} {front : List Char} (hfront : mark ∉ front)
    (part : Option (List Char)) : Text.cut (· == mark) (front ++ marked mark part) = (front, part) := by
  have hplain : ∀ c ∈ front, (c == mark) = false := fun c hc => by
    rw [beq_eq_false_iff_ne]
    rintro rfl
    exact hfront hc
  cases part with
  | none => exact (congrArg _ (List.append_nil front)).trans (Text.cut_of_plain hplain)
  | some rest => exact Text.cut_append hplain (beq_self_eq_true mark) rest

/-- An encoded text has no sign that is encoded, other than those it is encoded with. -/
theorem Percent.notMem_encode {isEncoded : Char → Bool} {mark : Char} (hmark : isEncoded mark = true)
    (hplain : mark ≠ '%' ∧ mark.isAlphanum = false) (text : List Char) :
    mark ∉ Percent.encode isEncoded text := by
  intro h
  rcases Percent.of_mem_encode h with ⟨_, hown⟩ | hpercent | halnum
  · rw [hmark] at hown
    cases hown
  · exact hplain.1 hpercent
  · rw [hplain.2] at halnum
    cases halnum

namespace UrlPath

variable {mark : Char}

/-- The segments of a path hold none of the signs that end a path. -/
theorem notMem_readSegments (hmark : mark = '?' ∨ mark = '#') {path : List Char} :
    ∀ part ∈ readSegments .web path, mark ∉ part := by
  cases path with
  | nil => simp [readSegments]
  | cons c rest =>
    refine notMem_followDots (by simp) fun segment _ => ?_
    rcases hmark with rfl | rfl <;> exact Percent.notMem_encode (by decide) (by decide) segment

/-- A path holds a sign other than a slash only where a segment does. -/
theorem notMem_write (hslash : mark ≠ '/') {parts : List (List Char)} (hparts : ∀ part ∈ parts, mark ∉ part) :
    mark ∉ write (.segments parts) := by
  intro h
  obtain ⟨part, hpart, h⟩ := List.mem_flatMap.mp h
  rcases List.mem_cons.mp h with rfl | h
  · exact hslash rfl
  · exact hparts part hpart h

end UrlPath

/-- The query of an address holds no sign that begins a fragment. -/
theorem Url.notMem_query {text : String} {url : Url} (h : read? text = some url) :
    ∀ query, url.query = some query → '#' ∉ query := by
  obtain ⟨_, own, hown⟩ := parts_of_read? h
  intro query hquery
  obtain ⟨text, _, rfl⟩ := Option.map_eq_some_iff.mp (hown.symm.trans hquery)
  exact Percent.notMem_encode (by simp [Percent.inQuery]) (by decide) text

namespace Endpoint

variable {endpoint : Endpoint} {mark : Char}

/-- A path to which segments are appended has its own segments and those that are placed. -/
theorem of_mem_foldl {segments start : List (List Char)} {part : List Char}
    (h : part ∈ segments.foldl (appendSegment .web) start) :
    part ∈ start ∨ ∃ segment, part = placed segment := by
  induction segments generalizing start with
  | nil => exact .inl h
  | cons segment rest ih =>
    rcases ih h with h | hplaced
    · rw [appendSegment_web, List.mem_append, List.mem_singleton] at h
      refine h.imp (fun h => opened_subset start ?_) (⟨segment, ·⟩)
      split at h
      · exact UrlPath.parent_subset _ h
      · exact h
    · exact .inr hplaced

/-- A segment is placed without the signs that end a path. -/
theorem notMem_placed (hmark : mark = '?' ∨ mark = '#') (segment : List Char) : mark ∉ placed segment := by
  rw [placed]
  split
  · exact List.not_mem_nil
  · rcases hmark with rfl | rfl <;> exact Percent.notMem_encode (by decide) (by decide) _

/-- The path of a request holds none of the signs that end a path, if its base does not. -/
theorem notMem_extendPath (hmark : mark = '?' ∨ mark = '#') {parts : List (List Char)}
    (hpath : endpoint.base.path = .segments parts) (hparts : ∀ part ∈ parts, mark ∉ part)
    (hweb : endpoint.base.kind = .web) {path : String} {extended : UrlPath}
    (h : endpoint.extendPath path = .ok extended) : mark ∉ extended.write := by
  have hslash : mark ≠ '/' := by rcases hmark with rfl | rfl <;> decide
  unfold extendPath at h
  dsimp only at h
  split at h
  · cases h
    rw [hpath]
    exact UrlPath.notMem_write hslash hparts
  · rw [hpath] at h
    cases h
    refine UrlPath.notMem_write hslash fun part hpart => ?_
    rw [hweb] at hpart
    rcases of_mem_foldl hpart with hbefore | ⟨segment, rfl⟩
    · exact hparts part (withoutClosing_subset parts hbefore)
    · exact notMem_placed hmark segment

/-- A query with more entries holds no sign that begins a fragment, if the query does not. -/
theorem notMem_extendQuery {query : Option (List Char)} (hquery : ∀ own, query = some own → '#' ∉ own)
    (entries : Fields String) : ∀ extended, extendQuery query entries = some extended → '#' ∉ extended := by
  intro extended h
  rw [extendQuery] at h
  split at h
  · exact hquery extended h
  · obtain rfl := Option.some.inj h
    have hbefore : '#' ∉ query.getD [] := by
      cases query with
      | none => exact List.not_mem_nil
      | some own => exact hquery own rfl
    rw [List.mem_append, List.mem_append, not_or, not_or]
    refine ⟨⟨hbefore, ?_⟩, Percent.notMem_entries entries⟩
    split <;> decide

/-- Segments that are names, not made of dots and have nothing left out are placed as they are. -/
theorem names_foldl_of_kept {segments : List (List Char)}
    (hsegments : ∀ segment ∈ segments, segment ≠ [] ∧ isDots segment = false ∧
      (segment.filter fun c => !Url.isDropped c) = segment) (start : List (List Char)) :
    (UrlPath.segments (segments.foldl (appendSegment .web) start)).names =
      (UrlPath.segments start).names ++ segments.map (Percent.encode (Percent.inSegment true)) := by
  induction segments generalizing start with
  | nil => exact (List.append_nil _).symm
  | cons segment rest ih =>
    rw [List.forall_mem_cons] at hsegments
    obtain ⟨⟨hname, hdots, hkept⟩, hrest⟩ := hsegments
    have hplaced : placed segment = Percent.encode (Percent.inSegment true) segment := by
      simp only [placed, hkept, hdots]
      rfl
    have hslash : '/' ∉ Percent.encode (Percent.inSegment true) segment :=
      Percent.notMem_encode (by decide) (by decide) segment
    have hnames : UrlPath.namesIn (placed segment) = [Percent.encode (Percent.inSegment true) segment] := by
      rw [hplaced, UrlPath.namesIn_of_plain hslash, if_neg (Percent.encode_ne_nil hname)]
    have hlast : (UrlPath.segments (opened start ++ [placed segment])).names =
        (UrlPath.segments start).names ++ [Percent.encode (Percent.inSegment true) segment] := by
      rw [← names_opened start, UrlPath.names_segments, UrlPath.names_segments, List.flatMap_append,
        List.flatMap_singleton, hnames]
    rw [List.foldl_cons, ih hrest, appendSegment_web, goesUp_of_kept hkept hdots]
    rw [if_neg (by simp), hlast, List.append_assoc, List.singleton_append, List.map_cons]

/-- Where a request path has no characters that are left out, its segments are placed as they are. -/
theorem ownPath_names {path : String} (hplain : ∀ c ∈ path.toList, Url.isDropped c = false) :
    (ownPath path).names = (appended path).map (Percent.encode (Percent.inSegment true)) := by
  refine names_foldl_of_kept (fun segment hsegment => ?_) [[]]
  obtain ⟨hname, hdots, hkept⟩ := of_mem_appended hsegment
  exact ⟨hname, hdots, hkept hplain⟩

/-- The endpoint of an address of the web has the names of the address. -/
theorem ofUrl_names {text : String} {url : Url} (hread : Url.read? text = some url)
    (hweb : url.kind = .web) : (ofUrl url).base.path.names = url.path.names := by
  obtain ⟨behind, hpath⟩ := Url.path_of_read? hread hweb
  rw [ofUrl_segments hpath hweb, hpath, UrlPath.names_segments, UrlPath.names_segments]
  split
  · rfl
  · rw [List.flatMap_append, List.flatMap_singleton]
    exact List.append_nil _

/-- The endpoint of an address of the web holds in its path none of the signs that end a path. -/
theorem ofUrl_notMem (hmark : mark = '?' ∨ mark = '#') {text : String} {url : Url}
    (hread : Url.read? text = some url) (hweb : url.kind = .web) :
    ∃ parts, (ofUrl url).base.path = .segments parts ∧ ∀ part ∈ parts, mark ∉ part :=
  ofUrl_forall List.not_mem_nil (fun _ => UrlPath.notMem_readSegments hmark) hread hweb

end Endpoint

/-- Addressing a request loses nothing: its address decodes to the names and pairs of the base with the segments
of the path, but for dots, and the entries of the query behind them. -/
theorem urlFor_decodes {text : String} {url : Url} (hread : Url.read? text = some url)
    (hweb : url.kind = .web) {path : String} (hplain : ∀ c ∈ path.toList, Url.isDropped c = false)
    (query : Fields String) :
    ∃ result, (Endpoint.ofUrl url).urlFor path query = .ok result ∧
      Text.cut (· == '#') (result.target ++ Url.marked '#' result.fragment) =
        (result.target, result.fragment) ∧
      Text.cut (· == '?') result.target = (result.path.write, result.query) ∧
      result.path.names.map Percent.decode =
        url.path.names.map Percent.decode ++ (Endpoint.appended path).map Percent.bytes ∧
      Percent.formPairs (result.query.getD []) =
        Percent.formPairs (url.query.getD []) ++ query.map Percent.entryPair ∧
      (result.query = none ↔ url.query = none ∧ query = []) := by
  obtain ⟨parts, hpath, hslash⟩ := Endpoint.ofUrl_path hread hweb
  obtain ⟨extended, hextended, hnames⟩ := Endpoint.extendPath_names hpath hslash hweb path
  have hclear : ∀ mark, mark = '?' ∨ mark = '#' → mark ∉ extended.write := by
    intro mark hmark
    obtain ⟨parts, hpath, hparts⟩ := Endpoint.ofUrl_notMem hmark hread hweb
    exact Endpoint.notMem_extendPath hmark hpath hparts hweb hextended
  have htarget : '#' ∉ extended.write ++ Url.marked '?' (Endpoint.extendQuery url.query query) := by
    rw [List.mem_append, not_or]
    refine ⟨hclear _ (.inr rfl), fun hmem => ?_⟩
    cases hquery : Endpoint.extendQuery url.query query with
    | none =>
      rw [hquery] at hmem
      cases hmem
    | some own =>
      rw [hquery] at hmem
      exact Endpoint.notMem_extendQuery (Url.notMem_query hread) query own hquery
        ((List.mem_cons.mp hmem).resolve_left (by decide))
  refine ⟨_, Outcome.bind_eq_ok.mpr ⟨_, hextended, rfl⟩, Url.cut_marked htarget _,
    Url.cut_marked (hclear _ (.inl rfl)) _, ?_, Percent.formPairs_extendQuery _ _,
    Percent.extendQuery_eq_none_iff⟩
  have hdecoded (segment : List Char) :
      Percent.decode (Percent.encode (Percent.inSegment true) segment) = Percent.bytes segment :=
    Percent.decode_encode (by decide) segment
  rw [Endpoint.leavesBase_of_plain hplain, if_neg (by simp), Endpoint.ownPath_names hplain,
    Endpoint.ofUrl_names hread hweb] at hnames
  rw [hnames, List.map_append, List.map_map]
  exact congrArg _ (List.map_congr_left fun segment _ => hdecoded segment)

/-- Signs of an address within a segment, an argument's name or its value are read back, and dots and
doubled slashes are left out. -/
theorem versionedUrl_decodes : Url.read? "http://example.com/api/v1/" = some versionedUrl ∧
    ∃ result, (Endpoint.ofUrl versionedUrl).urlFor "a?b#c d//./50%/é" [("q&=", "1+ %#é")] = .ok result ∧
      result.path.names.map Percent.decode =
        ["api", "v1", "a?b#c d", "50%", "é"].map (fun name => Percent.bytes name.toList) ∧
      Percent.formPairs (result.query.getD []) = [Percent.entryPair ("q&=", "1+ %#é")] := by
  have hvisible : ("a?b#c d//./50%/é".toList.all fun c => Url.isDropped c == false) = true := by decide
  obtain ⟨result, hresult, _, _, hpath, hquery, _⟩ := urlFor_decodes versionedUrl_read (by decide)
    (fun c hc => beq_iff_eq.mp (List.all_eq_true.mp hvisible c hc)) [("q&=", "1+ %#é")]
  refine ⟨versionedUrl_read, result, hresult, hpath.trans ?_, hquery⟩
  decide

end ServiceTree
