import RelyingParty.Proofs.Checked
import RelyingParty.Proofs.Json.Stable
import RelyingParty.Url

set_option autoImplicit false

namespace RelyingParty

def UrlText.IsRead (url : UrlText) : Prop :=
  (∃ text, UrlText.ofText text = .ok url) ∨ ∃ tree, UrlText.ofTree? tree = some url

theorem UrlText.ofText_text (text : String) (url : UrlText) (read : UrlText.ofText text = .ok url) :
    UrlText.ofText url.text = .ok url := by
  obtain ⟨parts, _, rfl⟩ := (map_success _ _ _).mp read
  exact read

theorem UrlText.IsRead.ofText {url : UrlText} (read : url.IsRead) :
    UrlText.ofText url.text = .ok url := by
  obtain ⟨text, read⟩ | ⟨tree, read⟩ := read
  · exact UrlText.ofText_text text url read
  · unfold UrlText.ofTree? at read
    split at read
    next text =>
      apply UrlText.ofText_text text url
      cases outcome : UrlText.ofText text <;> simp_all [Except.toOption]
    next => cases read

theorem UrlText.IsRead.ofTree?_toJson {url : UrlText} (read : url.IsRead) :
    UrlText.ofTree? url.toJson.toTree = some url := by
  change (UrlText.ofText url.text).toOption = some url
  rw [read.ofText]
  rfl

theorem UrlText.optional?_read (fields : Json.Fields) (name : String) (url : Option UrlText)
    (success : fields.optional? name UrlText.ofTree? = some url) : ∀ given ∈ url, given.IsRead :=
  fun given found => .inr (fields.optional?_read name _ url success given found)

theorem UrlText.optional?_written (fields : Json.Fields) (name : String) (url : Option UrlText)
    (found : fields.lookup name = (url.map UrlText.toJson).map Json.toTree)
    (read : ∀ given ∈ url, given.IsRead) : fields.optional? name UrlText.ofTree? = some url :=
  fields.optional?_written name _ _ url found rfl fun given stated =>
    (read given stated).ofTree?_toJson

end RelyingParty
