import SellerApi.Proofs.Http.Refusal
import SellerApi.Proofs.Report.Record
import SellerApi.Proofs.Resource.Inventory
import SellerApi.Proofs.Settings.Record

/-! # Data as JSON text

`DataType` names the types of data that travel as JSON text, each with its reader and its writer.
`DataType.decode_text` says for all of them that reading undoes writing, and that what was read from
any octets is written as a text that reads back. -/

namespace SellerApi

open SellerApi.Http SellerApi.Json SellerApi.Resource SellerApi.Text

/-- A type of data that travels as JSON text. -/
inductive DataType where
  | adClient
  | adUnit
  | customChannel
  | targeting
  | urlChannel
  | savedReport
  | adClients
  | adUnits
  | customChannels
  | urlChannels
  | savedReports
  | column
  | report
  | complaint
  | explanation
  | pacing
  | secrets
  | settings
  deriving DecidableEq, Repr

namespace DataType

/-- The values of a type of data. -/
def Carrier : DataType → Type
  | .adClient => AdClient
  | .adUnit => AdUnit
  | .customChannel => CustomChannel
  | .targeting => Targeting
  | .urlChannel => UrlChannel
  | .savedReport => SavedReport
  | .adClients => Page AdClient
  | .adUnits => Page AdUnit
  | .customChannels => Page CustomChannel
  | .urlChannels => Page UrlChannel
  | .savedReports => Page SavedReport
  | .column => Column
  | .report => Report
  | .complaint => Complaint
  | .explanation => Explanation
  | .pacing => Pacing
  | .secrets => Secrets
  | .settings => Settings

def ofNode? : (d : DataType) → Node → Option d.Carrier
  | .adClient => AdClient.ofNode?
  | .adUnit => AdUnit.ofNode?
  | .customChannel => CustomChannel.ofNode?
  | .targeting => Targeting.ofNode?
  | .urlChannel => UrlChannel.ofNode?
  | .savedReport => SavedReport.ofNode?
  | .adClients => Page.ofNode? (α := AdClient)
  | .adUnits => Page.ofNode? (α := AdUnit)
  | .customChannels => Page.ofNode? (α := CustomChannel)
  | .urlChannels => Page.ofNode? (α := UrlChannel)
  | .savedReports => Page.ofNode? (α := SavedReport)
  | .column => Column.ofNode?
  | .report => Report.ofNode?
  | .complaint => Complaint.ofNode?
  | .explanation => Explanation.ofNode?
  | .pacing => Pacing.ofNode?
  | .secrets => Secrets.ofNode?
  | .settings => Settings.ofNode?

def toValue : (d : DataType) → d.Carrier → Value
  | .adClient => AdClient.toValue
  | .adUnit => AdUnit.toValue
  | .customChannel => CustomChannel.toValue
  | .targeting => Targeting.toValue
  | .urlChannel => UrlChannel.toValue
  | .savedReport => SavedReport.toValue
  | .adClients => Page.toValue (α := AdClient)
  | .adUnits => Page.toValue (α := AdUnit)
  | .customChannels => Page.toValue (α := CustomChannel)
  | .urlChannels => Page.toValue (α := UrlChannel)
  | .savedReports => Page.toValue (α := SavedReport)
  | .column => Column.toValue
  | .report => Report.toValue
  | .complaint => Complaint.toValue
  | .explanation => Explanation.toValue
  | .pacing => Pacing.toValue
  | .secrets => Secrets.toValue
  | .settings => Settings.toValue

/-- No unknown word is a known one, and every count has the width of its field. Most types have
neither. -/
def IsPlain : (d : DataType) → d.Carrier → Prop
  | .adUnit => AdUnit.IsPlain
  | .adUnits => Page.All AdUnit.IsPlain
  | .column => Column.IsPlain
  | .report => Report.IsPlain
  | .explanation => Explanation.IsPlain
  | .pacing => Pacing.IsPlain
  | .settings => Settings.IsPlain
  | _ => fun _ => True

/-- The compact text of a value. -/
def text (d : DataType) (x : d.Carrier) : String := (d.toValue x).toText

/-- The value that octets hold. -/
def decode (d : DataType) (octets : List UInt8) : Option d.Carrier :=
  (readNode? octets).bind d.ofNode?

/-- A page of resources on which there is nothing to be said. -/
theorem inverse_page {α : Type} [Wire α]
    (h : Inverse (Wire.ofNode? (α := α)) Wire.toValue fun _ => True) :
    Inverse (Page.ofNode? (α := α)) Page.toValue fun _ => True where
  whole _ := (Page.inverse h).whole fun _ _ => trivial
  ne_null := (Page.inverse h).ne_null
  read_write _ := (Page.inverse h).read_write fun _ _ => trivial
  valid_of_read _ := trivial

theorem inverse (d : DataType) : Inverse d.ofNode? d.toValue d.IsPlain := by
  cases d with
  | adClient => exact AdClient.inverse
  | adUnit => exact AdUnit.inverse
  | customChannel => exact CustomChannel.inverse
  | targeting => exact Targeting.inverse
  | urlChannel => exact UrlChannel.inverse
  | savedReport => exact SavedReport.inverse
  | adClients => exact inverse_page AdClient.inverse
  | adUnits => exact Page.inverse AdUnit.inverse
  | customChannels => exact inverse_page CustomChannel.inverse
  | urlChannels => exact inverse_page UrlChannel.inverse
  | savedReports => exact inverse_page SavedReport.inverse
  | column => exact Column.inverse
  | report => exact Report.inverse
  | complaint => exact Complaint.inverse
  | explanation => exact Explanation.inverse
  | pacing => exact Pacing.inverse
  | secrets => exact Secrets.inverse
  | settings => exact Settings.inverse

/-- The text of a plain value reads back. Octets that can be read at all hold a plain value, so the
text that it is written as reads back too, and is written the same again. -/
theorem decode_text (d : DataType) :
    (∀ x, d.IsPlain x → d.decode (Utf8.encode (d.text x).toList) = some x) ∧
      ∀ octets x, d.decode octets = some x →
        d.IsPlain x ∧ d.decode (Utf8.encode (d.text x).toList) = some x ∧
          (d.decode (Utf8.encode (d.text x).toList)).map d.text = some (d.text x) := by
  have hback : ∀ x, d.IsPlain x → d.decode (Utf8.encode (d.text x).toList) = some x :=
    fun x hx => d.inverse.readNode?_bind hx
  refine ⟨hback, fun octets x hread => ?_⟩
  obtain ⟨n, -, hn⟩ := Option.bind_eq_some_iff.1 hread
  have hplain := d.inverse.valid_of_read hn
  exact ⟨hplain, hback x hplain, by rw [hback x hplain, Option.map_some]⟩

/-- A report with an unknown role, a control and a character beyond the first plane, and the least
count. -/
def sampleReport : Report :=
  { columns := [{ name := "D\x01\"", role := .dimension },
      { role := .other "𝔐", currency := some "" }]
    rows := [["a", ""], ["\\", "/\n"]], totals := ["", "1"]
    matchedRows := some (-0x8000_0000_0000_0000) }

theorem decode_text_sampleReport :
    Report.IsPlain sampleReport ∧
      DataType.report.decode (Utf8.encode (DataType.report.text sampleReport).toList) =
        some sampleReport := by
  have hplain : Report.IsPlain sampleReport := by
    constructor
    · intro c hc w hw
      simp only [sampleReport, List.mem_cons, List.not_mem_nil, or_false] at hc
      rcases hc with rfl | rfl
      · cases hw
      · cases hw
        decide
    · intro n hn
      obtain rfl : -0x8000_0000_0000_0000 = n := Option.some.inj hn
      decide
  exact ⟨hplain, (decode_text .report).1 sampleReport hplain⟩

end DataType
end SellerApi
