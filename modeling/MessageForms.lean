import MessageForms.Main
import MessageForms.Proofs.Client
import MessageForms.Proofs.Query.Forms
import MessageForms.Proofs.Session.Isolation
import MessageForms.Proofs.Session.LastError
import MessageForms.Proofs.Variant.Agreement
import MessageForms.Proofs.Variant.Indifference
import MessageForms.Proofs.Variant.Reports
import MessageForms.Proofs.Variant.Resaving
import MessageForms.Proofs.PatternKey.Places
import MessageForms.Version
import MessageForms.Proofs.Declaration.Forms
import MessageForms.Client.Step
import MessageForms.Proofs.Template
import MessageForms.Proofs.Client.Account
import MessageForms.Proofs.Client.Ownership
import MessageForms.Proofs.Variant.Consultations
import MessageForms.Proofs.Session.Consultations
import MessageForms.Proofs.Number.Grammar
import MessageForms.Proofs.Number.Reading
import MessageForms.Proofs.Number.Digits
import MessageForms.Proofs.Number.Layout
import MessageForms.Proofs.Number.Rounding
import MessageForms.Proofs.Number.RoundTrip
import MessageForms.Proofs.Variant.Comparison
import MessageForms.Proofs.Variant.Bindings
import MessageForms.Proofs.Variant.DroppedParts
import MessageForms.Proofs.Variant.Parameters
import MessageForms.Proofs.Declaration.MissingParts
import MessageForms.Proofs.PatternKey.Inference
import MessageForms.Proofs.Relay
import MessageForms.Proofs.Session.Lines
import MessageForms.Proofs.Variant.WellFormed
import MessageForms.Proofs.Session.WellFormed
import MessageForms.Proofs.Text.Passes
