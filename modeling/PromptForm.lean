import PromptForm.Main
import PromptForm.Oracle.Model
import PromptForm.Web.Api
import PromptForm.Proofs.Lowering.Draw
import PromptForm.Proofs.Block.Payload
import PromptForm.Proofs.Lowering.Cluster
import PromptForm.Proofs.Lowering.Reading
import PromptForm.Proofs.Lowering.Renaming
import PromptForm.Proofs.Lowering.Question
import PromptForm.Proofs.Lowering.Field
import PromptForm.Proofs.Condition.Reference
import PromptForm.Proofs.Lowering.Form
import PromptForm.Proofs.Lowering.Run
import PromptForm.Proofs.Lowering.Conditions
import PromptForm.Proofs.Block.Grouped
import PromptForm.Proofs.Lowering.Groups
import PromptForm.Proofs.Form.Checked
import PromptForm.Proofs.Outline.Line
import PromptForm.Proofs.Outline.Builder
import PromptForm.Proofs.Enrichment
import PromptForm.Proofs.Outline.Document
import PromptForm.Proofs.Definition
import PromptForm.Proofs.Compiler.Groups
import PromptForm.Proofs.Text.Case
import PromptForm.Proofs.Condition.Expression
import PromptForm.Proofs.Lowering.Failure
import PromptForm.Proofs.Outline.Condition
import PromptForm.Proofs.Compiler.Total
import PromptForm.Proofs.Lowering.Resolution
import PromptForm.Proofs.Outline.Resolution
import PromptForm.Proofs.Compiler.Stages
import PromptForm.Proofs.Oracle.Boundary
import PromptForm.Proofs.Web.Secret
import PromptForm.Proofs.Web.Log
import PromptForm.Proofs.Text.Line
import PromptForm.Proofs.Outline.Plan
import PromptForm.Proofs.Outline.Question
import PromptForm.Proofs.Outline.Attributes
import PromptForm.Proofs.Outline.Writing
import PromptForm.Proofs.Outline.RoundTrip
import PromptForm.Proofs.Lowering.Layout
import PromptForm.Proofs.Lowering.Precedence
import PromptForm.Proofs.Field.Rebuilt
import PromptForm.Proofs.Lowering.Alike
import PromptForm.Proofs.Lowering.Resembling
import PromptForm.Proofs.Oracle.Agreement
import PromptForm.Proofs.Json.Reader
import PromptForm.Proofs.Text.Fence
import PromptForm.Proofs.Json.Prose
import PromptForm.Proofs.Oracle.Wrapping
import PromptForm.Proofs.Definition.Fenced
import PromptForm.Proofs.Outline.Offer
import PromptForm.Proofs.Title
import PromptForm.Proofs.Outline.Title
import PromptForm.Proofs.Compiler.Titles
import PromptForm.Proofs.Lowering.Overfull
import PromptForm.Proofs.Json.Depth
import PromptForm.Proofs.Block.Shallow
import PromptForm.Proofs.Hosting.Exchange
import PromptForm.Proofs.Hosting.Account
import PromptForm.Proofs.Hosting.Address
import PromptForm.Proofs.Hosting.Creation
import PromptForm.Proofs.Hosting.Service
import PromptForm.Proofs.Outline.Shape
import PromptForm.Proofs.Outline.Steps
import PromptForm.Proofs.Enrichment.Prompts
import PromptForm.Proofs.Text.Lower
import PromptForm.Proofs.Condition.Split
import PromptForm.Proofs.Condition.Symbol
import PromptForm.Proofs.Text.Slug
import PromptForm.Proofs.Json.Display
import PromptForm.Proofs.Field.Held
import PromptForm.Proofs.Field.Spelling
import PromptForm.Proofs.Field.Dump
import PromptForm.Proofs.Lowering.Choice
import PromptForm.Proofs.Definition.Options
import PromptForm.Proofs.Text.Search
import PromptForm.Proofs.Keyword
import PromptForm.Proofs.Json.Place
import PromptForm.Proofs.Web.Masking
