import Briefing.Text.Alphanumeric
import Briefing.Text.Blank
import Briefing.Text.Lines
import Briefing.Text.Lowercase
import Briefing.Text.Search
import Briefing.Text.Column
import Briefing.Tokens
import Briefing.Binary64.Basic
import Briefing.Binary64.Decimal
import Briefing.Calendar.Instant
import Briefing.Entry.Blocks
import Briefing.Items
import Briefing.Packet.Assembly
import Briefing.Json.Reader
import Briefing.Packet.Format
import Briefing.Packet.TierReport
import Briefing.Disk
import Briefing.Context.Status
import Briefing.Cooldown
import Briefing.Toml.Text
import Briefing.Toml.Number
import Briefing.Toml.Writer
import Briefing.Settings.File
import Briefing.CommandLine.Run
import Briefing.Main
import Briefing.Proofs.Portions
import Briefing.Proofs.Shares
import Briefing.Proofs.EffectiveSettings
import Briefing.Proofs.CooldownRuns
import Briefing.Proofs.SessionTombstones
import Briefing.Proofs.TomlNumbers
import Briefing.Proofs.TomlTexts
import Briefing.Proofs.TomlLines
import Briefing.Proofs.SettingsReload
import Briefing.Proofs.LiveScores
import Briefing.Proofs.Ranking
import Briefing.Proofs.BudgetSafety
import Briefing.Proofs.Coverage
import Briefing.Proofs.Superseded
import Briefing.Proofs.Accounting
import Briefing.Proofs.ReportLines
import Briefing.Proofs.AmpleBudget
import Briefing.Proofs.Exhaustion
import Briefing.Proofs.Selection
import Briefing.Proofs.BlockPartition
import Briefing.Proofs.BlockEdits
import Briefing.Proofs.BlockRoundTrip
import Briefing.Proofs.ItemSections
import Briefing.Proofs.SectionsReadBack
import Briefing.Proofs.PacketData
import Briefing.Proofs.LineEnds
import Briefing.Proofs.ContextFiles
import Briefing.Proofs.FirstFit
import Briefing.Proofs.StableRanking
import Briefing.Proofs.ScoreRange
import Briefing.Proofs.Recency
import Briefing.Proofs.KeywordCounts
import Briefing.Proofs.KeywordExtraction
import Briefing.Proofs.HeaderLines
import Briefing.Proofs.TombstonePlaces
import Briefing.Proofs.SettingsOverrides
import Briefing.Proofs.SettingsInit
