/-
Module: ProstheticConscience.Gateway.Capabilities
Purpose: How a worker declares its capabilities: it writes them into the query of the connection
  URL, and the gateway reads them from there.  Texts are lists of characters; the query of a URL is
  what stands between its first `?` and its fragment.
Trusted boundary: none
Main exports: parseCapabilities, parseCapabilities_eq_ok_iff, buildRequestUrl,
  extractCapabilitiesParam, workerWsUpgrade, worker_admitted_iff
-/
import Mathlib.Data.Finset.Image
import Mathlib.Data.List.TakeWhile
import ProstheticConscience.Library.Results
import ProstheticConscience.Protocol
import ProstheticConscience.Text

namespace ProstheticConscience

namespace Capability

def asStr : Capability → String
  | .chat => "chat"
  | .transcription => "transcription"

/-- The unknown text is the error. -/
def fromStr (text : String) : Except String Capability :=
  if text = "chat" then .ok .chat
  else if text = "transcription" then .ok .transcription
  else .error text

theorem fromStr_eq_ok_iff {text : String} {capability : Capability} :
    fromStr text = .ok capability ↔ text = capability.asStr := by
  unfold fromStr
  by_cases chat : text = "chat"
  · rw [if_pos chat, chat]
    cases capability <;> decide
  · rw [if_neg chat]
    by_cases transcription : text = "transcription"
    · rw [if_pos transcription, transcription]
      cases capability <;> decide
    · rw [if_neg transcription]
      cases capability with
      | chat => exact iff_of_false (fun same => by cases same) chat
      | transcription => exact iff_of_false (fun same => by cases same) transcription

/-- The declared capabilities in their order. -/
def inOrder (capabilities : Finset Capability) : List Capability :=
  [.chat, .transcription].filter fun capability => decide (capability ∈ capabilities)

end Capability

/-- The tokens of a capability text: split at commas, trimmed, and not empty. -/
def capabilityTokens (text : List Char) : List String :=
  ((text.splitOn ',').map fun token => .ofList (trimChars token)).filter (· ≠ "")

/-- Parse a comma-separated capability text; the error is the first unknown token, or nothing. -/
def parseCapabilities (text : List Char) : Except String (Finset Capability) :=
  match (capabilityTokens text).mapM Capability.fromStr with
  | .error unknown => .error unknown
  | .ok capabilities => if capabilities.isEmpty then .error "" else .ok capabilities.toFinset

/-- Split a text at its first separator. -/
def splitOnce (separator : Char) (text : List Char) : Option (List Char × List Char) :=
  match text.dropWhile (· ≠ separator) with
  | [] => none
  | _ :: rest => some (text.takeWhile (· ≠ separator), rest)

theorem splitOnce_append_cons {separator : Char} {first : List Char} (absent : separator ∉ first)
    (rest : List Char) : splitOnce separator (first ++ separator :: rest) = some (first, rest) := by
  have other : ∀ c ∈ first, decide (c ≠ separator) = true := by
    intro c member
    exact decide_eq_true fun same => absent (same ▸ member)
  unfold splitOnce
  rw [List.dropWhile_append_of_pos other, List.takeWhile_append_of_pos other,
    List.dropWhile_cons_of_neg (by simp), List.takeWhile_cons_of_neg (by simp), List.append_nil]

theorem splitOnce_eq_none {separator : Char} {text : List Char} (absent : separator ∉ text) :
    splitOnce separator text = none := by
  have all : text.dropWhile (fun c => decide (c ≠ separator)) = [] :=
    List.dropWhile_eq_nil_iff.mpr fun c member =>
      decide_eq_true fun same => absent (same ▸ member)
  rw [splitOnce, all]

namespace Gateway

/-- The names of the capabilities, as a worker writes them. -/
def capabilitiesText (capabilities : Finset Capability) : List Char :=
  (",".intercalate ((Capability.inOrder capabilities).map Capability.asStr)).toList

/-- The URL of a worker's connection request. -/
def buildRequestUrl (gatewayUrl : List Char) (capabilities : Finset Capability) : List Char :=
  let separator := if '?' ∈ gatewayUrl then '&' else '?'
  gatewayUrl ++ separator :: ("capabilities=".toList ++ capabilitiesText capabilities)

/-- The query of a URL: what follows the first `?`, up to the fragment. -/
def rawQuery (url : List Char) : Option (List Char) :=
  (splitOnce '?' (url.takeWhile (· ≠ '#'))).map Prod.snd

/-- The value of the first `capabilities` parameter of a query. -/
def extractCapabilitiesParam (query : List Char) : Option (List Char) :=
  (query.splitOn '&').findSome? fun pair =>
    (splitOnce '=' pair).bind fun (key, value) =>
      if key = "capabilities".toList then some value else none

/-- Why the gateway refuses the connection of a worker. -/
inductive WorkerRefusal where
  | missingParameter
  | invalidCapabilities (unknown : String)
deriving DecidableEq, Repr

/-- The gateway's answer to a connection request: the capabilities with which the worker is
registered, or the refusal. -/
def workerWsUpgrade (query : Option (List Char)) : Except WorkerRefusal (Finset Capability) :=
  match query.bind extractCapabilitiesParam with
  | none => .error .missingParameter
  | some text =>
      match parseCapabilities text with
      | .error unknown => .error (.invalidCapabilities unknown)
      | .ok capabilities => .ok capabilities

theorem capabilities_cases (capabilities : Finset Capability) :
    capabilities = ∅ ∨ capabilities = {.chat} ∨ capabilities = {.transcription} ∨
      capabilities = {.chat, .transcription} := by
  have same : ∀ other : Finset Capability,
      (.chat ∈ capabilities ↔ .chat ∈ other) →
        (.transcription ∈ capabilities ↔ .transcription ∈ other) → capabilities = other := by
    intro other chat transcription
    ext capability
    cases capability
    · exact chat
    · exact transcription
  by_cases chat : Capability.chat ∈ capabilities <;>
    by_cases transcription : Capability.transcription ∈ capabilities
  · exact .inr (.inr (.inr (same _ (by simp [chat]) (by simp [transcription]))))
  · exact .inr (.inl (same _ (by simp [chat]) (by simp [transcription])))
  · exact .inr (.inr (.inl (same _ (by simp [chat]) (by simp [transcription]))))
  · exact .inl (same _ (by simp [chat]) (by simp [transcription]))

/-- The names contain no character that has a meaning in a URL. -/
theorem notMem_capabilitiesText (capabilities : Finset Capability) :
    ∀ c ∈ ['&', '#', '?', '='], c ∉ capabilitiesText capabilities := by
  have plain : (capabilitiesText capabilities).all (fun c => c.isAlpha || c == ',') = true := by
    rcases capabilities_cases capabilities with rfl | rfl | rfl | rfl <;> rfl
  intro c special member
  have allowed := List.all_eq_true.mp plain c member
  simp only [List.mem_cons, List.not_mem_nil, or_false] at special
  rcases special with rfl | rfl | rfl | rfl <;> cases allowed

/-- The names that a worker writes are read as its capabilities, if it has one. -/
theorem parseCapabilities_capabilitiesText {capabilities : Finset Capability}
    (some : capabilities.Nonempty) :
    parseCapabilities (capabilitiesText capabilities) = .ok capabilities := by
  rcases capabilities_cases capabilities with rfl | rfl | rfl | rfl
  · exact absurd some Finset.not_nonempty_empty
  · decide +kernel
  · decide +kernel
  · decide +kernel

/-- The name of the parameter, and the name with the sign that follows it. -/
theorem paramName_eq : "capabilities=".toList = "capabilities".toList ++ ['='] := by decide

theorem extract_param (capabilities : Finset Capability) :
    extractCapabilitiesParam ("capabilities=".toList ++ capabilitiesText capabilities) =
      some (capabilitiesText capabilities) := by
  have plain := notMem_capabilitiesText capabilities
  have noSign : '=' ∉ "capabilities".toList := by decide
  have whole : '&' ∉ "capabilities=".toList ++ capabilitiesText capabilities := by
    rw [List.mem_append, not_or]
    exact ⟨by decide, plain '&' (by decide)⟩
  unfold extractCapabilitiesParam
  rw [List.splitOn_eq_singleton whole, List.findSome?_singleton, paramName_eq, List.append_assoc,
    List.singleton_append, splitOnce_append_cons noSign, Option.bind_some]
  exact if_pos rfl

theorem extract_append (query later : List Char) :
    extractCapabilitiesParam (query ++ '&' :: later) =
      (extractCapabilitiesParam query).or (extractCapabilitiesParam later) := by
  unfold extractCapabilitiesParam
  rw [List.splitOn_append_cons_of_beq _ _ (beq_self_eq_true '&'), List.findSome?_append]

/-- The gateway finds the first parameter of the configured URL; the worker's own is found when
there is none and the URL has no fragment. -/
theorem extract_buildRequestUrl (gatewayUrl : List Char) (capabilities : Finset Capability) :
    (rawQuery (buildRequestUrl gatewayUrl capabilities)).bind extractCapabilitiesParam =
      ((rawQuery gatewayUrl).bind extractCapabilitiesParam).or
        (if '#' ∈ gatewayUrl then none else some (capabilitiesText capabilities)) := by
  have plain := notMem_capabilitiesText capabilities
  by_cases fragment : '#' ∈ gatewayUrl
  · have cut : (buildRequestUrl gatewayUrl capabilities).takeWhile (· ≠ '#') =
        gatewayUrl.takeWhile (· ≠ '#') := by
      obtain ⟨path, rest, rfl, first⟩ := List.eq_append_cons_of_mem fragment
      have toFragment : ∀ later : List Char,
          (path ++ '#' :: later).takeWhile (· ≠ '#') = path := by
        intro later
        have other : ∀ c ∈ path, decide (c ≠ '#') = true := fun c member =>
          decide_eq_true fun same => first (same ▸ member)
        rw [List.takeWhile_append_of_pos other, List.takeWhile_cons_of_neg (by simp),
          List.append_nil]
      rw [buildRequestUrl, List.append_assoc, List.cons_append, toFragment, toFragment]
    rw [rawQuery, cut, if_pos fragment, Option.or_none, rawQuery]
  · rw [if_neg fragment]
    have uncut : ∀ url : List Char, '#' ∉ url → url.takeWhile (· ≠ '#') = url := by
      intro url absent
      exact List.takeWhile_eq_self_iff.mpr fun c member =>
        decide_eq_true fun same => absent (same ▸ member)
    have whole : '#' ∉ buildRequestUrl gatewayUrl capabilities := by
      simp only [buildRequestUrl, List.mem_append, List.mem_cons, not_or]
      refine ⟨fragment, by split <;> decide, by decide, plain '#' (by decide)⟩
    rw [rawQuery, rawQuery, uncut _ whole, uncut _ fragment, buildRequestUrl]
    by_cases asks : '?' ∈ gatewayUrl
    · obtain ⟨path, query, rfl, first⟩ := List.eq_append_cons_of_mem asks
      rw [if_pos asks, List.append_assoc, List.cons_append, splitOnce_append_cons first,
        splitOnce_append_cons first]
      simp only [Option.map_some, Option.bind_some]
      rw [extract_append, extract_param]
    · rw [if_neg asks, splitOnce_append_cons asks, splitOnce_eq_none asks]
      simp only [Option.map_some, Option.bind_some, Option.map_none, Option.bind_none,
        Option.none_or]
      exact extract_param capabilities

/-- A worker is registered with exactly the capabilities that it declares, if and only if the
gateway URL it was configured with has no `capabilities` parameter and no fragment, or has a
parameter that says the same. -/
theorem worker_admitted_iff (gatewayUrl : List Char) {capabilities : Finset Capability}
    (declares : capabilities.Nonempty) :
    workerWsUpgrade (rawQuery (buildRequestUrl gatewayUrl capabilities)) = .ok capabilities ↔
      (rawQuery gatewayUrl).bind extractCapabilitiesParam = none ∧ '#' ∉ gatewayUrl ∨
        ∃ own, (rawQuery gatewayUrl).bind extractCapabilitiesParam = some own ∧
          parseCapabilities own = .ok capabilities := by
  rw [workerWsUpgrade, extract_buildRequestUrl]
  cases configured : (rawQuery gatewayUrl).bind extractCapabilitiesParam with
  | none =>
      rw [Option.none_or]
      by_cases fragment : '#' ∈ gatewayUrl
      · simp [fragment]
      · simp [fragment, parseCapabilities_capabilitiesText declares]
  | some own =>
      rw [Option.some_or]
      cases parsed : parseCapabilities own with
      | error unknown => simp [parsed]
      | ok other => simp [parsed]

/-- With the address that a worker is given by default, both capabilities arrive. -/
theorem default_worker_admitted :
    workerWsUpgrade (rawQuery (buildRequestUrl "ws://127.0.0.1:3000/ws/worker".toList
      {.chat, .transcription})) = .ok {.chat, .transcription} :=
  (worker_admitted_iff _ (Finset.insert_nonempty _ _)).mpr (.inl (by decide +kernel))

end Gateway

end ProstheticConscience
