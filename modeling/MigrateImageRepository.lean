import MigrateImageRepository.Rows
import MigrateImageRepository.Sequence
import MigrateImageRepository.Attempts
import MigrateImageRepository.Between
import MigrateImageRepository.CopyBlocks
import MigrateImageRepository.CopyFailures
import MigrateImageRepository.Decoding
import MigrateImageRepository.Dialogue
import MigrateImageRepository.ExternalCluster.Afterwards
import MigrateImageRepository.ExternalCluster.Cluster
import MigrateImageRepository.ExternalCluster.ClusterImport
import MigrateImageRepository.ExternalCluster.Created
import MigrateImageRepository.ExternalCluster.Export
import MigrateImageRepository.ExternalCluster.FirstUpgrade
import MigrateImageRepository.ExternalCluster.Handoff
import MigrateImageRepository.ExternalCluster.ImportEnds
import MigrateImageRepository.ExternalCluster.ImportRuns
import MigrateImageRepository.ExternalCluster.Isolation
import MigrateImageRepository.ExternalCluster.Permissions
import MigrateImageRepository.ExternalCluster.PoolPrefix
import MigrateImageRepository.ExternalCluster.Repeated
import MigrateImageRepository.ExternalCluster.Requests
import MigrateImageRepository.ExternalCluster.Resources
import MigrateImageRepository.ExternalCluster.Runs
import MigrateImageRepository.ExternalCluster.ShellExports
import MigrateImageRepository.ExternalCluster.Upgrade
import MigrateImageRepository.ExternalCluster.Users
import MigrateImageRepository.FailedSteps
import MigrateImageRepository.FirstCome
import MigrateImageRepository.Generation
import MigrateImageRepository.Generator
import MigrateImageRepository.ItemText
import MigrateImageRepository.Migration
import MigrateImageRepository.Script
