import SellerApi.Call.Endpoint
import SellerApi.Proofs.Request.Resolve

/-! # The paths of endpoints

The raw segments of an endpoint's path, written out: `Endpoint.raws`. They are what the template
expands to whenever it does (`Endpoint.eq_raws_of_expandPath`). -/

namespace SellerApi.Endpoint

open SellerApi.Url

/-- The raw segments of an endpoint's path. -/
def raws : Endpoint → List String
  | .adClients => ["adclients"]
  | .adUnits client => ["adclients", client, "adunits"]
  | .adUnit client unit => ["adclients", client, "adunits", unit]
  | .unitChannels client unit => ["adclients", client, "adunits", unit, "customchannels"]
  | .channels client => ["adclients", client, "customchannels"]
  | .channel client id => ["adclients", client, "customchannels", id]
  | .channelUnits client id => ["adclients", client, "customchannels", id, "adunits"]
  | .urlChannels client => ["adclients", client, "urlchannels"]
  | .savedReports => ["reports", "saved"]
  | .report => ["reports"]
  | .savedReport id => ["reports", id]

/-- The words that stand as literal segments in templates. -/
def words : List String :=
  ["adclients", "adunits", "customchannels", "urlchannels", "reports", "saved"]

/-- The pieces of an endpoint's template. -/
def pieces : Endpoint → List PathPiece
  | .adClients => [.literal "adclients"]
  | .adUnits _ => [.literal "adclients", .placeholder "adClientId", .literal "adunits"]
  | .adUnit .. => [.literal "adclients", .placeholder "adClientId", .literal "adunits",
      .placeholder "adUnitId"]
  | .unitChannels .. => [.literal "adclients", .placeholder "adClientId", .literal "adunits",
      .placeholder "adUnitId", .literal "customchannels"]
  | .channels _ => [.literal "adclients", .placeholder "adClientId", .literal "customchannels"]
  | .channel .. => [.literal "adclients", .placeholder "adClientId", .literal "customchannels",
      .placeholder "customChannelId"]
  | .channelUnits .. => [.literal "adclients", .placeholder "adClientId",
      .literal "customchannels", .placeholder "customChannelId", .literal "adunits"]
  | .urlChannels _ => [.literal "adclients", .placeholder "adClientId", .literal "urlchannels"]
  | .savedReports => [.literal "reports", .literal "saved"]
  | .report => [.literal "reports"]
  | .savedReport _ => [.literal "reports", .placeholder "savedReportId"]

theorem templatePieces_template (e : Endpoint) : templatePieces e.template = e.pieces := by
  cases e <;> simp only [template, pieces] <;> decide +kernel

theorem mem_words_of_literal {e : Endpoint} {t : String} (h : .literal t ∈ e.pieces) :
    t ∈ words := by
  cases e <;> simp only [pieces, words, List.mem_cons, PathPiece.literal.injEq, reduceCtorEq,
    List.not_mem_nil, or_false, false_or] at h ⊢ <;> grind

/-- A literal of a template is a name, and it is written as it is. -/
theorem written_of_literal {e : Endpoint} {t : String} (h : .literal t ∈ e.pieces) :
    IsName t ∧ written t = t := by
  have hall : ∀ t ∈ words, IsName t ∧ written t = t := by decide +kernel
  exact hall t (mem_words_of_literal h)

/-- What stands for a piece once its name is bound. -/
def filled (bs : Bindings) : PathPiece → String
  | .literal t => t
  | .placeholder name => (bs.find? name).getD ""

theorem map_filled_pieces (e : Endpoint) : e.pieces.map (filled e.bindings) = e.raws := by
  cases e <;> rfl

/-- What a template expands to, if it does. -/
theorem eq_raws_of_expandPath {e : Endpoint} {rs : List String}
    (h : expandPath e.template e.bindings = .ok rs) : rs = e.raws := by
  have hall := forall₂_of_expandPath h
  rw [templatePieces_template] at hall
  rw [← map_filled_pieces, ← List.forall₂_eq_eq_eq, List.forall₂_map_right_iff]
  refine hall.flip.imp fun raw piece hseg => ?_
  cases piece with
  | literal t => exact (Except.ok.inj hseg).symm
  | placeholder name => simp [filled, (identifier_eq_ok_iff.1 hseg).1]

end SellerApi.Endpoint
