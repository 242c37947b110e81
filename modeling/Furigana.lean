import Furigana.Config.Loading
import Furigana.Config.Validation
import Furigana.Engine
import Furigana.Main
import Furigana.Markdown.Document
import Furigana.Pattern
import Furigana.Proofs.Cache
import Furigana.Proofs.Engine
import Furigana.Proofs.Scan
import Furigana.Proofs.Form
import Furigana.Proofs.Form.Separation
import Furigana.Proofs.Run
import Furigana.Proofs.Alignment
import Furigana.Proofs.Alignment.Recovery
import Furigana.Proofs.Segments
import Furigana.Proofs.Detection
import Furigana.Proofs.Escape
import Furigana.Proofs.Options
import Furigana.Proofs.Nesting
import Furigana.Proofs.Document
import Furigana.Proofs.Rendering
import Furigana.Proofs.Markup.Expansion
import Furigana.Proofs.Tree
import Furigana.Proofs.Detection.Attachment
import Furigana.Proofs.Depth
import Furigana.Proofs.Draft
import Furigana.Proofs.BaseText
import Furigana.Proofs.Html
import Furigana.Proofs.EscapedText
import Furigana.Proofs.Markdown.Escapes
import Furigana.Proofs.Untouched
import Furigana.Proofs.Markdown.Annotation
import Furigana.Proofs.Markdown.Injection
import Furigana.Proofs.Locality
import Furigana.Proofs.Idempotence
import Furigana.Proofs.Form.Order
import Furigana.Proofs.Prose
import Furigana.Proofs.Conservation
import Furigana.Proofs.Markdown.Cut
import Furigana.Proofs.Markdown.Stream
import Furigana.Proofs.Detection.Blocks
import Furigana.Proofs.Form.Leftmost
import Furigana.Proofs.FileTree
import Furigana.Proofs.CommandLine
import Furigana.Proofs.Distribution
import Furigana.Proofs.Detection.Gloss
import Furigana.Proofs.Cache.History
import Furigana.Proofs.Text
import Furigana.Proofs.Form.Grammar
import Furigana.Proofs.Text.Quoted
import Furigana.Proofs.Ruby
import Furigana.Proofs.Pattern
import Furigana.Proofs.Pattern.Search
import Furigana.Proofs.Config.Validation
import Furigana.Proofs.Notice
import Furigana.Proofs.Config.Discovery
import Furigana.Proofs.Config.Layers
import Furigana.Proofs.Notice
