import RuleFields.Catalog.Yaml
import RuleFields.Description
import RuleFields.EditorValue
import RuleFields.Interchange.Decoding
import RuleFields.Interchange.Encoding
import RuleFields.Rendering
import RuleFields.SharedRegistry
import RuleFields.Builder
import RuleFields.Proofs.Constants
import RuleFields.Proofs.Registration
import RuleFields.Proofs.Expansion
import RuleFields.Proofs.SharedRegistry
import RuleFields.Proofs.Json.Compact
import RuleFields.Interchange.Format
import RuleFields.Proofs.Text.ByteOrder
import RuleFields.Proofs.SortedMap
import RuleFields.Proofs.Interchange.Parts
import RuleFields.Proofs.Interchange.RoundTrip
import RuleFields.Proofs.Classification
import RuleFields.Proofs.Rendering
import RuleFields.Proofs.Labels
import RuleFields.Proofs.RenderedLists
import RuleFields.Proofs.EditorValue
import RuleFields.Proofs.Catalog
import RuleFields.Proofs.CustomConstants
import RuleFields.Proofs.CustomFields
import RuleFields.Proofs.BuiltinFields
import RuleFields.Proofs.Evaluation
import RuleFields.Proofs.Text.Base64Url
import RuleFields.Proofs.Catalog.Specs
import RuleFields.Proofs.Interchange.FieldValues
import RuleFields.Proofs.Interchange.Spellings
import RuleFields.Proofs.Log
import RuleFields.Proofs.Reference
import RuleFields.Proofs.Tags
import RuleFields.Proofs.Attribution
import RuleFields.Proofs.Interchange.Parameters
import RuleFields.Proofs.Interchange.Vocabularies
