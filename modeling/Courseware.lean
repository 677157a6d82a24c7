import Courseware.Command
import Courseware.Course.Basic
import Courseware.Course.Reader
import Courseware.FileStore.Basic
import Courseware.Main
import Courseware.Markdown.Block
import Courseware.Number.Double
import Courseware.Proofs.Course.Defects
import Courseware.Proofs.FileStore.Update
import Courseware.Proofs.Site.AnswerKey
import Courseware.Proofs.Site.Escaping
import Courseware.Proofs.Site.Keys
import Courseware.Proofs.Site.Numbering
import Courseware.Proofs.Site.Output
import Courseware.Proofs.Site.Run
import Courseware.Proofs.Site.Safe
import Courseware.Proofs.Template.BuiltinSet
import Courseware.Proofs.Template.Cache
import Courseware.Proofs.Template.Cycle
import Courseware.Proofs.Template.Fill
import Courseware.Proofs.Template.Session
import Courseware.Proofs.Text.Anchor
import Courseware.Random.Rng
import Courseware.Site.Build
import Courseware.Site.Slides
import Courseware.Site.Render
import Courseware.Template.Builtin
import Courseware.Template.Engine
import Courseware.Text.Alphabetic
import Courseware.Text.Slug
import Courseware.Text.CharSet
import Courseware.Text.CaseTables
import Courseware.Text.Cased
import Courseware.Text.Pattern
import Courseware.Text.WordChar
import Courseware.Xml.Document
import Courseware.Xml.Entity
import Courseware.Xml.Token
import Courseware.Yaml.Document
import Courseware.Proofs.Markdown.Words
import Courseware.Proofs.Markdown.Lines
import Courseware.Proofs.Markdown.Prose
import Courseware.Proofs.Markdown.Render
import Courseware.Proofs.Markdown.Lists
import Courseware.Proofs.Markdown.Elements
import Courseware.Proofs.Markdown.Tags
import Courseware.Proofs.Site.Ops
import Courseware.Proofs.Template.Served
import Courseware.Proofs.Site.Strict
import Courseware.Proofs.Text.Stem
import Courseware.Proofs.Site.Inert
import Courseware.Proofs.Template.Scan
import Courseware.Proofs.Template.Canonical
import Courseware.Proofs.Template.Limit
import Courseware.Proofs.Template.Joins
import Courseware.Proofs.Template.Nesting
import Courseware.Proofs.Course.Layout
import Courseware.Proofs.Course.Answers
import Courseware.Proofs.Text.ScriptString
import Courseware.Proofs.Text.Utf8
import Courseware.Proofs.Xml.Escape
import Courseware.Proofs.Xml.Tag
import Courseware.Proofs.Xml.RoundTrip
