import Wikidown.Main
import Wikidown.Proofs.BatchFailures
import Wikidown.Proofs.BatchPages
import Wikidown.Proofs.BlankLines
import Wikidown.Proofs.CodeInPages
import Wikidown.Proofs.CodeIndependence
import Wikidown.Proofs.CodeLines
import Wikidown.Proofs.ColorTags
import Wikidown.Proofs.Composition
import Wikidown.Proofs.FeedRuns
import Wikidown.Proofs.FileConversion
import Wikidown.Proofs.FirstItems
import Wikidown.Proofs.HeadedTables
import Wikidown.Proofs.InlineLines
import Wikidown.Proofs.ItemNumbers
import Wikidown.Proofs.LineEndings
import Wikidown.Proofs.LinksUpdatedAgain
import Wikidown.Proofs.LoadedOptions
import Wikidown.Proofs.LongNumbers
import Wikidown.Proofs.MaskedLines
import Wikidown.Proofs.Masking
import Wikidown.Proofs.MixedLists
import Wikidown.Proofs.OrderedLists
import Wikidown.Proofs.PrintedPages
import Wikidown.Proofs.ReportedFailures
import Wikidown.Proofs.Restoration
import Wikidown.Proofs.RestoredTokens
import Wikidown.Proofs.SlugSearch
import Wikidown.Proofs.SpacedTables
import Wikidown.Proofs.Spans
import Wikidown.Proofs.Tables
import Wikidown.Proofs.TablesBelow
import Wikidown.Proofs.Tags
import Wikidown.Proofs.UpdatedLinks
import Wikidown.Proofs.Verbatim
import Wikidown.Proofs.WrittenLinks
