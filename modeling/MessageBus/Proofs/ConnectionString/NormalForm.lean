/-
# Is the rendering of what was parsed a normal form?

What the parser gives is rendered with the host and the parts that it has, and
nothing is escaped. The parts never hold a semicolon, so they come back. The
host is canonical, so its endpoint has it again, as long as the endpoint stays
one segment. But a host under a scheme of the web may hold a semicolon, written
as `%3B`. Rendered as it is, it cuts the endpoint in two, and then the text is
refused or the host is another one.

Key definition: `ConnectionString.GivesEndpoint`.
Key theorems: `ConnectionString.givesEndpoint_of_parse`,
`ConnectionString.canonical_of_parse`, `ConnectionString.endpointHost_canonical`,
`ConnectionString.not_semicolon_of_reparse`, `ConnectionString.reparse_iff`.
-/
import MessageBus.Proofs.ConnectionString.Grammar
import MessageBus.Proofs.Endpoint

namespace MessageBus
namespace ConnectionString

open Outcome

/-! ### Where a host comes from -/

/-- A segment that gives an endpoint. -/
def GivesEndpoint (segment : List Char) (endpoint : String) : Prop :=
  ∃ key value, Text.cutOnce '=' segment = some (key, value) ∧
    Text.sameIgnoringCase (String.ofList (Text.trim key)) "Endpoint" = true ∧
    endpoint = String.ofList (Text.trim value)

theorem Gives.givesEndpoint {segment : List Char} {endpoint : String}
    (h : Gives "Endpoint" segment endpoint) : GivesEndpoint segment endpoint := by
  obtain ⟨front, back, rfl, hfront, hkey, rfl⟩ := h
  exact ⟨front, back, Text.cutOnce_append hfront, hkey, rfl⟩

/-- **The host of a connection string is that of an endpoint in its text.** -/
theorem givesEndpoint_of_parse {text : String} {c : ConnectionString} (h : parse text = .ok c) :
    ∃ segment ∈ segments text.toList, ∃ endpoint, GivesEndpoint segment endpoint ∧
      endpointHost endpoint = .ok c.host := by
  obtain ⟨endpoint, hlast, hhost⟩ := ((follows_parse text).parts c h).host
  obtain ⟨segment, hmem, hgives⟩ := hlast.exists_gives
  exact ⟨segment, hmem, endpoint, hgives.givesEndpoint, hhost⟩

/-! ### The endpoint of a host -/

theorem endpointHost_eq_ok {endpoint host : String} (h : endpointHost endpoint = .ok host) :
    Host.Canonical host.toList ∧ host.toList ≠ [] := by
  unfold endpointHost at h
  split at h
  · cases h
  · cases h
  · next parsed hparsed =>
    obtain ⟨hfilled, h⟩ := refuse_eq_ok.1 h
    cases h
    rw [String.toList_ofList]
    exact ⟨Endpoint.canonical_of_parse hparsed, hfilled⟩

/-- **The endpoint of a canonical host has that host.** -/
theorem endpointHost_canonical {text ending : List Char} (h : Host.Canonical text) (hne : text ≠ [])
    (hending : ending = [] ∨ ending = ['/']) :
    endpointHost (String.ofList ("sb://".toList ++ (text ++ ending))) = .ok (String.ofList text) := by
  obtain ⟨found, hverbatim, hrender⟩ := h.parseVerbatim
  unfold endpointHost
  rw [String.toList_ofList, Endpoint.parse_canonical h hending, hverbatim]
  simp only [Except.map, if_neg hne, hrender]

theorem endpointHost_of_not_mem {endpoint : String} (h : ':' ∉ endpoint.toList) :
    endpointHost endpoint = .error (.configuration (.badEndpoint endpoint .relative)) := by
  rw [endpointHost, Endpoint.parse_of_not_mem h]

/-! ### Endpoints that a semicolon cuts -/

/-- What a segment with a key and a value gives for an endpoint. -/
theorem eq_of_givesEndpoint {key value endpoint : String} (hkey : Carried key)
    (hequals : '=' ∉ key.toList) (hv : Carried value)
    (h : GivesEndpoint (key ++ "=" ++ value).toList endpoint) :
    Text.sameIgnoringCase key "Endpoint" = true ∧ endpoint = value := by
  obtain ⟨before, after, hcut, hname, rfl⟩ := h
  have hsplit : Text.cutOnce '=' (key ++ "=" ++ value).toList = some (key.toList, value.toList) := by
    simpa using Text.cutOnce_append hequals
  obtain ⟨rfl, rfl⟩ := Prod.mk.inj (Option.some.inj (hsplit.symm.trans hcut))
  rw [hkey.trimmed, String.ofList_toList] at hname
  exact ⟨hname, by rw [hv.trimmed, String.ofList_toList]⟩

/-- The segment of a part is a piece as it stands, and gives no endpoint. -/
theorem intact_and_not_givesEndpoint {key endpoint : String} {part : Option String}
    (hkey : Carried key) (hequals : '=' ∉ key.toList)
    (hother : Text.sameIgnoringCase key "Endpoint" = false) (hpart : ∀ value ∈ part, Carried value) :
    ∀ segment ∈ renderedPart key part, Intact segment ∧ ¬ GivesEndpoint segment endpoint := by
  intro segment hmem
  refine ⟨intact_renderedPart hkey hpart segment hmem, fun hgives => ?_⟩
  cases part with
  | none => cases hmem
  | some value =>
    obtain rfl := List.mem_singleton.1 hmem
    have hsame := (eq_of_givesEndpoint hkey hequals (hpart value rfl) hgives).1
    rw [hother] at hsame
    cases hsame

/-- The endpoint of a plain host, up to a semicolon, can be carried by a segment. -/
theorem carried_plain {text : List Char} (h : Host.Plain text) (hsemicolon : ';' ∉ text) :
    Carried (String.ofList ("sb://".toList ++ text)) where
  unbroken := by
    rw [String.toList_ofList]
    exact fun hmem => (List.mem_append.1 hmem).elim (by decide) hsemicolon
  trimmed := by
    have hscheme : Text.Trimmed "sb://".toList := Text.trim_eq_self_iff.1 (by decide)
    rw [String.toList_ofList]
    exact Text.trim_eq_self_iff.2 (hscheme.append (Text.trimmed_of_forall (Host.isBlank_of_plain h)))

/-- What a segment without colons gives is no endpoint with a host. -/
theorem endpointHost_ne_of_givesEndpoint {segment : List Char} {endpoint host : String}
    (hcolon : ':' ∉ segment) (h : GivesEndpoint segment endpoint) :
    endpointHost endpoint ≠ .ok host := by
  obtain ⟨key, value, hcut, -, rfl⟩ := h
  have hvalue : ':' ∉ (String.ofList (Text.trim value)).toList := by
    rw [String.toList_ofList]
    intro hmem
    rw [Text.cutOnce_eq_some hcut] at hcolon
    exact hcolon (List.mem_append_right _ (List.mem_cons_of_mem _ (Text.mem_of_mem_trim hmem)))
  rw [endpointHost_of_not_mem hvalue]
  exact fun h => nomatch h

/-- The pieces of an endpoint that a semicolon cuts give no host with a semicolon: the first
one gives what stands before it, and no other one has a scheme. -/
theorem not_semicolon_of_cut {front rest : List Char} (hplain : Host.Plain (front ++ ';' :: rest))
    (hfront : ';' ∉ front) {piece : List Char}
    (hpiece : piece ∈ Text.cut ';'
      ("Endpoint" ++ "=" ++ ("sb://" ++ String.ofList (front ++ ';' :: rest) ++ "/")).toList)
    {endpoint host : String} (hgives : GivesEndpoint (Text.trim piece) endpoint)
    (hhost : endpointHost endpoint = .ok host) : ';' ∉ host.toList := by
  have hplain' : Host.Plain front := fun c hc => hplain c (List.mem_append_left _ hc)
  have hendpoint : Carried "Endpoint" := ⟨by decide, by decide⟩
  have hcarried : Carried (String.ofList ("sb://".toList ++ front)) := carried_plain hplain' hfront
  have hintact := intact_segment hendpoint hcarried
  have hcut : ("Endpoint" ++ "=" ++ ("sb://" ++ String.ofList (front ++ ';' :: rest) ++ "/")).toList =
      ("Endpoint" ++ "=" ++ String.ofList ("sb://".toList ++ front)).toList ++
        ';' :: (rest ++ ['/']) := by
    simp
  rw [hcut, Text.cut_append_cons, Text.cut_of_not_mem hintact.unbroken] at hpiece
  rcases List.mem_cons.1 hpiece with rfl | hpiece
  · rw [hintact.trimmed] at hgives
    obtain ⟨-, rfl⟩ := eq_of_givesEndpoint hendpoint (by decide) hcarried hgives
    by_cases hnil : front = []
    · subst hnil
      have hnone : endpointHost (String.ofList ("sb://".toList ++ [])) =
          .error (.configuration (.hostlessEndpoint "sb://")) := by decide
      rw [hnone] at hhost
      cases hhost
    · have hfound := endpointHost_canonical (.plain hplain') hnil (.inl rfl)
      rw [List.append_nil, hhost] at hfound
      obtain rfl := Except.ok.inj hfound
      rwa [String.toList_ofList]
  · have hcolon : ':' ∉ Text.trim piece := fun hmem => by
      have hrest : ':' ∈ rest ++ ['/'] := Text.mem_of_mem_cut hpiece (Text.mem_of_mem_trim hmem)
      rcases List.mem_append.1 hrest with hrest | hrest
      · have hforbidden := (hplain ':' (List.mem_append_right _ (List.mem_cons_of_mem _ hrest))).1
        exact absurd hforbidden (by decide)
      · exact absurd hrest (by decide)
    exact absurd hhost (endpointHost_ne_of_givesEndpoint hcolon hgives)

/-- **A connection string whose host holds a semicolon is not read from its text.** -/
theorem not_semicolon_of_reparse {c : ConnectionString} (hcanonical : Host.Canonical c.host.toList)
    (hcarries : c.Carries) (h : parse c.render = .ok c) : ';' ∉ c.host.toList := by
  have hparts : ∀ part ∈ [c.keyName, c.key, c.entityPath], ∀ value ∈ part, Carried value := hcarries
  simp only [List.forall_mem_cons, List.not_mem_nil] at hparts
  obtain ⟨hname, hkey, hpath, -⟩ := hparts
  intro hmem
  -- the segment that gave the host is one of the pieces of one of the rendered segments
  obtain ⟨segment, hsegment, endpoint, hgives, hhost⟩ := givesEndpoint_of_parse h
  obtain ⟨piece, hpiece, rfl⟩ := List.mem_map.1 (List.mem_filter.1 hsegment).1
  rw [toList_render] at hpiece
  obtain ⟨part, hpart, hpiece⟩ := Text.mem_cut_join (List.cons_ne_nil _ _) hpiece
  rcases List.mem_cons.1 hpart with rfl | hpart
  · obtain ⟨front, rest, hsplit, hfront⟩ := List.eq_append_cons_of_mem hmem
    have hplain : Host.Plain c.host.toList := hcanonical.plain_of_mem hmem
    have hof : c.host = String.ofList (front ++ ';' :: rest) := by
      rw [← hsplit, String.ofList_toList]
    rw [hsplit] at hplain
    rw [hof] at hpiece
    exact not_semicolon_of_cut hplain hfront hpiece hgives hhost hmem
  · obtain ⟨hintact, hnone⟩ : Intact part ∧ ¬ GivesEndpoint part endpoint := by
      rcases List.mem_append.1 hpart with hpart | hpart
      · rcases List.mem_append.1 hpart with hpart | hpart
        · exact intact_and_not_givesEndpoint ⟨by decide, by decide⟩ (by decide) (by decide) hname _ hpart
        · exact intact_and_not_givesEndpoint ⟨by decide, by decide⟩ (by decide) (by decide) hkey _ hpart
      · exact intact_and_not_givesEndpoint ⟨by decide, by decide⟩ (by decide) (by decide) hpath _ hpart
    rw [Text.cut_of_not_mem hintact.unbroken] at hpiece
    obtain rfl := List.mem_singleton.1 hpiece
    rw [hintact.trimmed] at hgives
    exact hnone hgives

/-! ### Rendering what was parsed -/

theorem canonical_of_parse {text : String} {c : ConnectionString} (h : parse text = .ok c) :
    Host.Canonical c.host.toList ∧ c.host.toList ≠ [] := by
  obtain ⟨_, -, _, -, hhost⟩ := givesEndpoint_of_parse h
  exact endpointHost_eq_ok hhost

/-- **What was parsed is read from its rendering exactly if its host holds no semicolon**,
whatever the scheme, the user information, the port and the form of the host in its text. -/
theorem reparse_iff {text : String} {c : ConnectionString} (h : parse text = .ok c) :
    parse c.render = .ok c ↔ ';' ∉ c.host.toList := by
  obtain ⟨hcanonical, hne⟩ := canonical_of_parse h
  refine ⟨not_semicolon_of_reparse hcanonical (carries_of_parse h), fun hhost => ?_⟩
  have hendpoint : endpointHost ("sb://" ++ c.host ++ "/") = .ok c.host := by
    have htext : "sb://" ++ c.host ++ "/" =
        String.ofList ("sb://".toList ++ (c.host.toList ++ ['/'])) := by
      apply String.toList_inj.1
      simp
    rw [htext, endpointHost_canonical hcanonical hne (.inr rfl), String.ofList_toList]
  rw [parse_render hhost (carries_of_parse h), hendpoint]
  rfl

/-- An endpoint with user information, a port and an IPv6 address that can be shorter. -/
def verboseText : String :=
  "endpoint = sb://user:word@[2001:DB8:0:0::1]:5671/path ;;EntityPath=a=b"

/-- What it says. -/
def verbose : ConnectionString := ⟨"[2001:db8::1]", none, none, some "a=b"⟩

theorem reparse_iff_verbose :
    parse verboseText = .ok verbose ∧ parse verbose.render = .ok verbose := by
  have hparse : parse verboseText = .ok verbose := by decide +kernel
  exact ⟨hparse, (reparse_iff hparse).2 (by decide)⟩

/-- The host of a web address with an encoded semicolon. -/
theorem parseWeb_semicolon : Host.parseWeb "a%3Bb".toList = .ok (.name "a;b".toList) := by
  have hdecoded : Text.percentDecoded? "a%3Bb".toList = some "a;b".toList := by decide +kernel
  have hname : Domain.toAscii "a;b".toList = .ok "a;b".toList :=
    Domain.toAscii_of_ascii (by decide) (by decide) (by decide)
  unfold Host.parseWeb
  rw [if_neg (by decide), hdecoded]
  show (Domain.toAscii "a;b".toList >>= _) = _
  rw [hname]
  decide +kernel

theorem endpointHost_semicolon : endpointHost "https://a%3Bb/" = .ok "a;b" := by
  have hbare : Endpoint.authorityHost true "a%3Bb/".toList =
      (if true = true then Host.parseWeb "a%3Bb".toList else Host.parseVerbatim "a%3Bb".toList).map
        fun host => if "a%3Bb".toList = [] then none else some host :=
    Endpoint.authorityHost_bare (by decide) (by decide) (by decide) (by decide)
  have hscheme : Endpoint.scheme? (Endpoint.significant "https://a%3Bb/".toList) =
      some ("https".toList, "//a%3Bb/".toList) := by decide
  have hkind : Endpoint.schemeKind "https".toList = .web := by decide
  have hslashes : "//a%3Bb/".toList.dropWhile (Endpoint.isSlash true) = "a%3Bb/".toList := by decide
  have hparse : Endpoint.parse "https://a%3Bb/".toList = .ok (some (.name "a;b".toList)) := by
    unfold Endpoint.parse
    rw [hscheme]
    dsimp only
    rw [hkind, hslashes]
    dsimp only
    rw [hbare, if_pos rfl, parseWeb_semicolon]
    rfl
  rw [endpointHost, hparse]
  decide

/-- It is cut in two when it is rendered, and the text is refused. -/
theorem not_reparsed_semicolon : parse "Endpoint=https://a%3Bb/" = .ok ⟨"a;b", none, none, none⟩ ∧
    parse (render ⟨"a;b", none, none, none⟩) =
      .error (.configuration (.malformedSegment "b/")) := by
  have hsegments : segments "Endpoint=https://a%3Bb/".toList =
      [("Endpoint" ++ "=" ++ "https://a%3Bb/").toList] := by decide
  refine ⟨?_, by decide +kernel⟩
  rw [parse, hsegments, List.foldlM_cons,
    apply_segment ⟨by decide, by decide⟩ (by decide) _ ⟨by decide, by decide⟩, set_endpoint,
    endpointHost_semicolon]
  rfl

end ConnectionString
end MessageBus
